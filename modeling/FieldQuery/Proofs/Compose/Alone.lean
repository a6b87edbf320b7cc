import Mathlib
import FieldQuery.Proofs.Argument.History
import FieldQuery.Proofs.Compose.OrderGrammar
import FieldQuery.Proofs.Request.Lookup
import FieldQuery.Proofs.Text.LowerCase

/-!
# A filter alone

In a list whose names are distinct in lower case, a filter is asked for by its name as if the list
held nothing else.
-/

namespace FieldQuery

/-- The names under which a request is looked up. -/
def ArgumentList.lowerNames (l : ArgumentList) : List String :=
  l.descriptors.map fun a => Text.toLower a.name

/-- The word names this argument of the list, in any case, and no other one. -/
def ArgumentList.NamesOnly (l : ArgumentList) (word : String) (a : Descriptor) : Prop :=
  Text.toLower word = Text.toLower a.name ∧
    ∃ before after, l.descriptors = before ++ a :: after ∧
      ∀ other ∈ before ++ after, Text.toLower other.name ≠ Text.toLower a.name

namespace Compose

open RequestArguments (ofList)

variable {l : ArgumentList} {a : Descriptor} {word : String} {value : Literal}

theorem get?_single (word : String) (value : Literal) (name : String) :
    (ofList [(word, value)]).get? name =
      if Text.toLower name = Text.toLower word then some value else none :=
  RequestArguments.get?_insert

theorem fragments_filter (r : RequestArguments) (first : Nat) (filters : List FilterArgument) :
    fragments r first (filters.filter fun a => (r.supplied? a.graphPath).isSome) =
      fragments r first filters := by
  induction filters generalizing first with
  | nil => rfl
  | cons a rest ih =>
    rw [List.filter_cons]
    cases hsupplied : r.supplied? a.graphPath with
    | none => simp [fragments, hsupplied, ih]
    | some value => simp [fragments, hsupplied, ih]

theorem name_of_filter? {fa : FilterArgument} (h : a.filter? = some fa) :
    fa.graphPath = a.name := by
  unfold Descriptor.filter? at h
  unfold Descriptor.name
  split at h
  case h_1 argument hrole =>
    obtain rfl := Option.some.inj h
    rw [hrole]
  case h_2 => cases h

theorem filter_supplied_single {others : List Descriptor}
    (h : ∀ other ∈ others, Text.toLower other.name ≠ Text.toLower word) :
    (others.filterMap Descriptor.filter?).filter
      (fun fa => ((ofList [(word, value)]).supplied? fa.graphPath).isSome) = [] := by
  rw [List.filter_eq_nil_iff]
  intro fa hfa
  obtain ⟨other, hother, hfilter⟩ := List.mem_filterMap.mp hfa
  rw [RequestArguments.supplied?, get?_single, name_of_filter? hfilter, if_neg (h other hother)]
  simp

theorem others_named_otherwise {before after : List Descriptor}
    (h : l.lowerNames.Nodup) (hsplit : l.descriptors = before ++ a :: after) :
    (∀ other ∈ before, Text.toLower other.name ≠ Text.toLower a.name) ∧
      ∀ other ∈ after, Text.toLower other.name ≠ Text.toLower a.name := by
  rw [ArgumentList.lowerNames, hsplit, List.map_append, List.map_cons, List.nodup_middle,
    List.nodup_cons, List.mem_append] at h
  constructor
  · exact fun other hother hname => h.1 (.inl (hname ▸ List.mem_map_of_mem hother))
  · exact fun other hother hname => h.1 (.inr (hname ▸ List.mem_map_of_mem hother))

theorem namesOnly_of_nodup (h : l.lowerNames.Nodup) (ha : a ∈ l.descriptors)
    (hword : Text.toLower word = Text.toLower a.name) : l.NamesOnly word a := by
  obtain ⟨before, after, hsplit⟩ := List.append_of_mem ha
  obtain ⟨hbefore, hafter⟩ := others_named_otherwise h hsplit
  refine ⟨hword, before, after, hsplit, ?_⟩
  rw [List.forall_mem_append]
  exact ⟨hbefore, hafter⟩

theorem filter?_of_namesOnly (h : l.NamesOnly word a) :
    filter? l (ofList [(word, value)]) = filter? (.ofDescriptors [a]) (ofList [(word, value)]) := by
  obtain ⟨hword, before, after, hsplit, hothers⟩ := h
  rw [List.forall_mem_append, ← hword] at hothers
  unfold filter?
  rw [← fragments_filter, ← fragments_filter _ _ (ArgumentList.ofDescriptors [a]).filters]
  rw [← List.singleton_append] at hsplit
  simp only [ArgumentList.filters, hsplit, ArgumentList.ofDescriptors, List.filterMap_append,
    List.filter_append, filter_supplied_single hothers.1, filter_supplied_single hothers.2,
    List.nil_append, List.append_nil]

theorem filter?_alone (h : l.lowerNames.Nodup) (ha : a ∈ l.descriptors)
    (hword : Text.toLower word = Text.toLower a.name) :
    filter? l (ofList [(word, value)]) = filter? (.ofDescriptors [a]) (ofList [(word, value)]) :=
  filter?_of_namesOnly (namesOnly_of_nodup h ha hword)

theorem get?_of_namesOnly (h : l.NamesOnly word a) {d : Descriptor} (hd : d ∈ l.descriptors)
    (hne : d ≠ a) : (ofList [(word, value)]).get? d.name = none := by
  obtain ⟨hword, before, after, hsplit, hothers⟩ := h
  rw [hsplit, List.mem_append, List.mem_cons] at hd
  have hother : d ∈ before ++ after := by
    rw [List.mem_append]
    rcases hd with hd | rfl | hd
    · exact .inl hd
    · exact absurd rfl hne
    · exact .inr hd
  rw [get?_single, hword, if_neg (hothers d hother)]

theorem get?_firstOf? (h : l.NamesOnly word a) {kind : ArgumentKind} (hkind : a.kind ≠ kind)
    {d : Descriptor} (hd : l.firstOf? kind = some d) :
    (ofList [(word, value)]).get? d.name = none := by
  refine get?_of_namesOnly h (ArgumentList.mem_of_firstOf? hd) ?_
  rintro rfl
  exact hkind (ArgumentList.kind_of_firstOf? hd)

/-- A request for one filter asks for no order and no page. -/
theorem plan_of_namesOnly (h : l.NamesOnly word a) (hkind : a.kind = .filter) :
    plan l (ofList [(word, value)]) =
      (filter? (.ofDescriptors [a]) (ofList [(word, value)])).map fun f => ⟨f, [], none⟩ := by
  have horder : orderBy l (ofList [(word, value)]) = .ok [] := by
    unfold orderBy
    cases hd : l.firstOf? .orderBy with
    | none => rfl
    | some d => simp only [get?_firstOf? h (by simp [hkind]) hd]
  have hpaging : paging? l (ofList [(word, value)]) = .ok none := by
    unfold paging? RequestArguments.supplied?
    cases hpage : l.firstOf? .page with
    | none => rfl
    | some page =>
      cases hsize : l.firstOf? .pageSize with
      | none => rfl
      | some size =>
        simp only [get?_firstOf? h (by simp [hkind]) hpage,
          get?_firstOf? h (by simp [hkind]) hsize, Option.filter_none]
  rw [plan, horder, hpaging, filter?_of_namesOnly h]
  cases filter? (.ofDescriptors [a]) (ofList [(word, value)]) <;> rfl

theorem findByGraphPath?_own (h : l.lowerNames.Nodup) (ha : a ∈ l.descriptors)
    (hpath : a.graphPath? = some a.name)
    (hword : Text.eqAsciiCase a.name word = true) : l.findByGraphPath? word = some a := by
  obtain ⟨before, after, hsplit⟩ := List.append_of_mem ha
  refine ArgumentList.findByGraphPath?_eq_some.mpr ⟨before, after, hsplit, ⟨_, hpath, hword⟩, ?_⟩
  rintro other hother ⟨graphPath, hother', hsame⟩
  obtain ⟨fa, hfa, rfl⟩ := Option.map_eq_some_iff.mp hother'
  rw [name_of_filter? hfa] at hsame
  refine (others_named_otherwise h hsplit).1 other hother ?_
  rw [Text.toLower_eq_of_eqAsciiCase hsame, Text.toLower_eq_of_eqAsciiCase hword]

end Compose

end FieldQuery
