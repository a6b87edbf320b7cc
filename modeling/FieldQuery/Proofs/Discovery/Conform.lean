import Mathlib
import FieldQuery.Proofs.Discovery.Chains
import FieldQuery.Proofs.Path.Dotted
import FieldQuery.Proofs.Path.Fit

/-!
# Documents that conform to a type

A document that conforms to the type it is stored for fits the path of every chain from that type.
-/

namespace FieldQuery

/-! ## Conformity -/

/-- A value has the shape its type declares. Non-null types exclude null. The elements of a list
conform each, so null is among them if their type allows it. -/
inductive Registry.Conforms (r : Registry) : GraphType → Json → Prop
  | null {t : GraphType} (nullable : t.isNonNull = false) : Conforms r t .null
  | nonNull {inner : GraphType} {value : Json} (present : value.isNull = false)
      (conforms : Conforms r inner value) : Conforms r (.nonNull inner) value
  | object {name : String} {object : ObjectType} {members : List (String × Json)}
      (registered : r.resolve? name = some object)
      (fields : ∀ field ∈ object.fields,
        Conforms r field.type ((Json.object members).member field.name)) :
      Conforms r (.object name) (.object members)
  | list {element : GraphType} {items : List Json}
      (elements : ∀ item ∈ items, Conforms r element item) :
      Conforms r (.list element) (.array items)
  | scalar {kind : ScalarKind} {value : Json} : Conforms r (.scalar kind) value
  | enumeration {name : String} {value : Json} : Conforms r (.enumeration name) value
  | unregistered {name : String} {value : Json} (missing : r.resolve? name = none) :
      Conforms r (.object name) value

namespace Registry.Conforms

variable {r : Registry} {t : GraphType} {name : String} {value : Json}

theorem nullable (h : r.Conforms t value) : r.Conforms t.nullable value := by
  cases t with
  | nonNull inner =>
    cases h with
    | null nullable => cases nullable
    | nonNull _ conforms => exact conforms
  | scalar | enumeration | object | list => exact h

theorem present (h : r.Conforms t value) (ht : t.isNonNull = true) : value.isNull = false := by
  cases h with
  | nonNull present => exact present
  | null nullable => rw [ht] at nullable; cases nullable
  | object | list | scalar | enumeration | unregistered => cases ht

theorem of_isObject (h : r.Conforms t value) (ht : r.IsObject t name) :
    r.Conforms (.object name) value := by
  rw [← ht.1]
  exact h.nullable

theorem object_cases {object : ObjectType} (h : r.Conforms (.object name) value)
    (hobject : r.resolve? name = some object) :
    value = .null ∨ value.isNull = false ∧
      ∀ field ∈ object.fields, r.Conforms field.type (value.member field.name) := by
  cases h with
  | null => exact Or.inl rfl
  | object registered fields =>
    obtain rfl := Option.some.inj (registered.symm.trans hobject)
    exact Or.inr ⟨rfl, fields⟩
  | unregistered missing => rw [hobject] at missing; cases missing

theorem objectList_cases (h : r.Conforms t value) (ht : r.IsObjectList t name) :
    value = .null ∨
      ∃ items, value = .array items ∧ ∀ item ∈ items, r.Conforms (.object name) item := by
  obtain ⟨element, hlist, helement, -⟩ := ht
  have hvalue := h.nullable
  rw [hlist] at hvalue
  cases hvalue with
  | null => exact Or.inl rfl
  | list elements =>
    refine Or.inr ⟨_, rfl, ?_⟩
    intro item hitem
    rw [← helement]
    exact (elements item hitem).nullable

end Registry.Conforms

/-! ## Plain names -/

/-- Field names are not empty and hold no dots. -/
def Registry.PlainNames (r : Registry) : Prop :=
  ∀ name object, r.resolve? name = some object →
    ∀ field ∈ object.fields, field.name ≠ "" ∧ '.' ∉ field.name.toList

theorem Registry.plainNames_of_entries {r : Registry}
    (h : ∀ entry ∈ r.entries, ∀ field ∈ entry.2.fields,
      field.name ≠ "" ∧ '.' ∉ field.name.toList) : r.PlainNames := by
  intro name object hobject
  obtain ⟨before, after, hentries, -⟩ := List.lookup_eq_some_iff.mp hobject
  exact h (name, object) (by simp [hentries])

theorem Segment.members_of_plain {s : Segment} (hne : s.path ≠ "") (hdot : '.' ∉ s.path.toList) :
    s.members = [s.path] := by
  have hchars : s.path.toList ≠ [] := by simpa using hne
  rw [members, splitOn_eq, List.splitOn_eq_singleton hdot]
  simp [hchars]

/-! ## Chains -/

namespace Discovery

variable {d : Discovery} {typeName : String}

theorem Declares.mem {link : Link} (h : d.Declares typeName link) :
    link.field ∈ link.owner.fields :=
  List.mem_of_getElem? h.field

theorem Follows.members {link : Link} {s : Segment} (h : d.Follows link s)
    (hresolver : d.resolver = .identity) (hplain : d.registry.PlainNames)
    (hdeclared : d.Declares typeName link) : s.members = [link.field.name] := by
  have hpath : s.path = link.field.name := by
    rw [h.path, hresolver]
    rfl
  obtain ⟨hne, hdot⟩ := hplain typeName link.owner hdeclared.owner link.field hdeclared.mem
  rw [← hpath] at hne hdot ⊢
  exact Segment.members_of_plain hne hdot

theorem Follows.single {link : Link} {s : Segment} (h : d.Follows link s)
    (hlink : ∀ name, ¬ d.registry.IsObjectList link.field.type name) : s.isList = false := by
  rw [Bool.eq_false_iff]
  intro hlist
  obtain ⟨name, hname⟩ := h.isList.mp hlist
  exact hlink name hname

theorem Follows.present {link : Link} {s : Segment} (h : d.Follows link s) {value : Json}
    (hvalue : d.registry.Conforms link.field.type value) (hs : s.isNullable = false) :
    value.isNull = false := by
  refine hvalue.present ?_
  cases hnonNull : link.field.type.isNonNull with
  | true => rfl
  | false => rw [h.isNullable.mpr hnonNull] at hs; cases hs

theorem not_isObjectList_of_isObject {t : GraphType} {name : String}
    (h : d.registry.IsObject t name) (other : String) : ¬ d.registry.IsObjectList t other := by
  rintro ⟨element, hlist, -⟩
  rw [h.1] at hlist
  cases hlist

variable {chain : List Link} {segments : List Segment}

theorem IsChain.plain (h : d.IsChain typeName chain) (hresolver : d.resolver = .identity)
    (hplain : d.registry.PlainNames) (hsegments : List.Forall₂ d.Follows chain segments) :
    Plain segments := by
  induction h generalizing segments with
  | leaf declared _ =>
    obtain ⟨s, rest, hs, hrest, rfl⟩ := List.forall₂_cons_left_iff.mp hsegments
    cases hrest
    intro x hx
    obtain rfl := List.mem_singleton.mp hx
    exact ⟨_, hs.members hresolver hplain declared⟩
  | enter declared _ _ ih =>
    obtain ⟨s, rest, hs, hrest, rfl⟩ := List.forall₂_cons_left_iff.mp hsegments
    intro x hx
    rcases List.mem_cons.mp hx with rfl | hx
    · exact ⟨_, hs.members hresolver hplain declared⟩
    · exact ih hrest x hx

/-- What conforms to the first type of a chain fits its path. -/
theorem IsChain.fits (h : d.IsChain typeName chain) (hresolver : d.resolver = .identity)
    (hplain : d.registry.PlainNames) (hsegments : List.Forall₂ d.Follows chain segments)
    {value : Json} (hvalue : d.registry.Conforms (.object typeName) value) :
    Fits segments value := by
  induction h generalizing segments value with
  | leaf declared leaf =>
    obtain ⟨s, rest, hs, hrest, rfl⟩ := List.forall₂_cons_left_iff.mp hsegments
    cases hrest
    rcases hvalue.object_cases declared.owner with rfl | ⟨hpresent, hfields⟩
    · exact .null
    · exact .member hpresent (hs.single fun name => (leaf name).2)
        (hs.members hresolver hplain declared) (hs.present (hfields _ declared.mem)) .leaf
  | enter declared enters _ ih =>
    obtain ⟨s, rest, hs, hrest, rfl⟩ := List.forall₂_cons_left_iff.mp hsegments
    rcases hvalue.object_cases declared.owner with rfl | ⟨hpresent, hfields⟩
    · exact .null
    have hfield := hfields _ declared.mem
    have hmembers := hs.members hresolver hplain declared
    rcases enters with hobject | ⟨-, hlist⟩
    · exact .member hpresent (hs.single (not_isObjectList_of_isObject hobject)) hmembers
        (hs.present hfield) (ih hrest (hfield.of_isObject hobject))
    · rcases hfield.objectList_cases hlist with hnull | ⟨items, hitems, helements⟩
      · exact .noList hpresent (hs.isList.mpr ⟨_, hlist⟩) hmembers hnull
      · exact .elements hpresent (hs.isList.mpr ⟨_, hlist⟩) hmembers hitems
          fun item hitem => ih hrest (helements item hitem)

theorem IsChain.ends (h : d.IsChain typeName chain)
    (hsegments : List.Forall₂ d.Follows chain segments) {isRequired : Bool}
    (hrequired : chain.getLast?.map (·.field.type.isNonNull) = some isRequired) :
    Ends isRequired segments := by
  induction h generalizing segments with
  | leaf _ leaf =>
    obtain ⟨s, rest, hs, hrest, rfl⟩ := List.forall₂_cons_left_iff.mp hsegments
    cases hrest
    refine ⟨s, rfl, hs.single fun name => (leaf name).2, ?_⟩
    rw [Bool.eq_iff_iff, hs.isNullable]
    simp_all
  | enter _ _ below ih =>
    obtain ⟨s, rest, -, hrest, rfl⟩ := List.forall₂_cons_left_iff.mp hsegments
    refine ends_cons (ih hrest ?_)
    obtain ⟨last, hlast⟩ := List.getLast?_isSome.mpr below.ne_nil |> Option.isSome_iff_exists.mp
    rw [← hrequired, List.getLast?_cons, hlast]
    rfl

/-- What is known of the path of a discovered argument. -/
structure Discovered (d : Discovery) (typeName : String) (a : FilterArgument) : Prop where
  plain : Plain a.path.segments
  ends : Ends a.isRequired a.path.segments
  fits : ∀ {value : Json}, d.registry.Conforms (.object typeName) value →
    Fits a.path.segments value

theorem discovered_of_mem (hresolver : d.resolver = .identity) (hplain : d.registry.PlainNames)
    {a : FilterArgument} (h : a ∈ (d.ofType typeName).filters) : d.Discovered typeName a := by
  obtain ⟨descriptor, hmem, hfilter⟩ := List.mem_filterMap.mp h
  obtain ⟨chain, hchain, hdescribes⟩ := exists_describes hmem
  obtain ⟨⟨argument⟩, _⟩ := descriptor
  · obtain rfl : argument = a := Option.some.inj hfilter
    exact ⟨hchain.plain hresolver hplain hdescribes.path,
      hchain.ends hdescribes.path hdescribes.isRequired,
      hchain.fits hresolver hplain hdescribes.path⟩
  all_goals cases hfilter

end Discovery

end FieldQuery
