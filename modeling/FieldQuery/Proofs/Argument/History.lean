import Mathlib
import FieldQuery.Argument.List
import FieldQuery.Proofs.Discovery.Chains

/-!
# Histories of argument lists

Any calls in any order, made on a list. Each keeps part of the list or adds the pseudo-arguments
that it lacks, so there is never a second one of a kind.
-/

namespace FieldQuery

/-- One call that shapes an argument list. -/
inductive ListCall where
  | supportOrderBy
  | supportOrderByAs (name : String)
  | supportPaging
  | supportPagingAs (page pageSize : String)
  | includeMatching (patterns : List String)
  | excludeMatching (patterns : List String)
  | filterByKey (keep : String → Bool)
  | filterByKind (kind : ArgumentKind)
  | rebuilt

namespace ListCall

def apply (l : ArgumentList) : ListCall → ArgumentList
  | .supportOrderBy => l.supportOrderBy
  | .supportOrderByAs name => l.supportOrderByAs name
  | .supportPaging => l.supportPaging
  | .supportPagingAs page pageSize => l.supportPagingAs page pageSize
  | .includeMatching patterns => l.includeMatching patterns
  | .excludeMatching patterns => l.excludeMatching patterns
  | .filterByKey keep => l.filterByKey keep
  | .filterByKind kind => l.filterByKind kind
  | .rebuilt => l.rebuilt

def run (calls : List ListCall) (l : ArgumentList) : ArgumentList := calls.foldl apply l

end ListCall

namespace Descriptor

def isPaging (d : Descriptor) : Bool := d.kind = .page || d.kind = .pageSize

theorem isPaging_iff {d : Descriptor} :
    d.isPaging = true ↔ d.kind = .page ∨ d.kind = .pageSize := by
  simp [isPaging]

end Descriptor

namespace ArgumentList

/-- What a call can make of a list. -/
inductive Shaped (l l' : ArgumentList) : Prop
  /-- Part of the list is kept, or all of it. -/
  | kept (keep : Descriptor → Bool) (h : l'.descriptors = l.descriptors.filter keep)
  | ordered (name : String) (hnone : l.hasOrderBy = false)
      (h : l'.descriptors = l.descriptors ++ [.orderBy name])
  /-- One paging argument without the other makes way for the pair. -/
  | paged (page pageSize : String) (hnone : l.hasPaging = false)
      (h : l'.descriptors =
        l.descriptors.filter (!·.isPaging) ++ [.page page, .pageSize pageSize])

theorem Shaped.same {l l' : ArgumentList} (h : l'.descriptors = l.descriptors) : Shaped l l' :=
  .kept (fun _ => true) (by rw [h, List.filter_true])

theorem shaped_supportOrderByAs (l : ArgumentList) (name : String) :
    Shaped l (l.supportOrderByAs name) := by
  unfold supportOrderByAs
  cases hnone : l.hasOrderBy with
  | true => exact .same rfl
  | false => exact .ordered name hnone rfl

theorem shaped_supportPagingAs (l : ArgumentList) (page pageSize : String) :
    Shaped l (l.supportPagingAs page pageSize) := by
  unfold supportPagingAs
  cases hnone : l.hasPaging with
  | true => exact .same rfl
  | false =>
    refine .paged page pageSize hnone ?_
    simp [Descriptor.isPaging]

theorem shaped_apply (l : ArgumentList) (call : ListCall) : Shaped l (call.apply l) := by
  cases call with
  | supportOrderBy => exact shaped_supportOrderByAs l _
  | supportOrderByAs name => exact shaped_supportOrderByAs l name
  | supportPaging => exact shaped_supportPagingAs l _ _
  | supportPagingAs page pageSize => exact shaped_supportPagingAs l page pageSize
  | includeMatching | excludeMatching | filterByKey | filterByKind => exact .kept _ rfl
  | rebuilt => exact .same rfl

/-! ## One of a kind -/

def countOf (l : ArgumentList) (kind : ArgumentKind) : Nat :=
  l.descriptors.countP (·.kind = kind)

/-- There is at most one pseudo-argument of each kind. -/
def PseudoOnce (l : ArgumentList) : Prop := ∀ kind, kind ≠ .filter → l.countOf kind ≤ 1

variable {l l' : ArgumentList}

theorem hasKind_iff {kind : ArgumentKind} :
    l.hasKind kind = true ↔ ∃ d ∈ l.descriptors, d.kind = kind := by
  simp [hasKind]

theorem countOf_eq_zero {kind : ArgumentKind} (h : l.hasKind kind = false) :
    l.countOf kind = 0 := by
  rw [countOf, List.countP_eq_zero]
  simpa [hasKind] using h

theorem countOf_kept {kind : ArgumentKind} {keep : Descriptor → Bool}
    (h : l'.descriptors = l.descriptors.filter keep) : l'.countOf kind ≤ l.countOf kind := by
  rw [countOf, h]
  exact List.filter_sublist.countP_le

theorem countOf_append {kind : ArgumentKind} {others more : List Descriptor}
    (h : l'.descriptors = others ++ more) :
    l'.countOf kind = others.countP (·.kind = kind) + more.countP (·.kind = kind) := by
  rw [countOf, h, List.countP_append]

theorem countP_unpaged {kind : ArgumentKind} (h : kind = .page ∨ kind = .pageSize)
    (descriptors : List Descriptor) :
    (descriptors.filter (!·.isPaging)).countP (·.kind = kind) = 0 := by
  rw [List.countP_eq_zero]
  intro d hd hkind
  obtain rfl : d.kind = kind := of_decide_eq_true hkind
  have hpaging : d.isPaging = true := Descriptor.isPaging_iff.mpr h
  simp [hpaging] at hd

theorem PseudoOnce.shaped (h : l.PseudoOnce) (hshaped : Shaped l l') : l'.PseudoOnce := by
  intro kind hkind
  have hold := h kind hkind
  cases hshaped with
  | kept keep hkept => exact (countOf_kept hkept).trans hold
  | ordered name hnone hmore =>
    rw [countOf_append hmore, ← countOf]
    cases kind with
    | filter => exact absurd rfl hkind
    | orderBy =>
      rw [countOf_eq_zero hnone, Nat.zero_add]
      exact List.countP_le_length
    | page | pageSize => simpa [Descriptor.orderBy, Descriptor.kind] using hold
  | paged page pageSize hnone hmore =>
    rw [countOf_append hmore]
    cases kind with
    | filter => exact absurd rfl hkind
    | orderBy =>
      have hfewer : (l.descriptors.filter (!·.isPaging)).countP (·.kind = .orderBy) ≤ 1 :=
        List.filter_sublist.countP_le.trans hold
      simpa [Descriptor.page, Descriptor.pageSize, Descriptor.kind] using hfewer
    | page | pageSize =>
      -- None of the old ones is left, and the pair has one of each.
      rw [countP_unpaged (by simp)]
      simp [Descriptor.page, Descriptor.pageSize, Descriptor.kind]

theorem PseudoOnce.run (h : l.PseudoOnce) (calls : List ListCall) :
    (ListCall.run calls l).PseudoOnce := by
  induction calls generalizing l with
  | nil => exact h
  | cons call rest ih => exact ih (h.shaped (shaped_apply l call))

/-! ## The first of a kind -/

theorem kind_of_firstOf? {kind : ArgumentKind} {d : Descriptor} (h : l.firstOf? kind = some d) :
    d.kind = kind := by
  rw [firstOf?] at h
  simpa using List.find?_some h

theorem mem_of_firstOf? {kind : ArgumentKind} {d : Descriptor} (h : l.firstOf? kind = some d) :
    d ∈ l.descriptors :=
  List.mem_of_find?_eq_some h

/-- The only one of its kind is the first. -/
theorem firstOf?_of_mem (h : l.PseudoOnce) {d : Descriptor} (hd : d ∈ l.descriptors)
    (hkind : d.kind ≠ .filter) : l.firstOf? d.kind = some d := by
  have hone := h d.kind hkind
  rw [countOf, List.countP_eq_length_filter] at hone
  have hmem : d ∈ l.descriptors.filter (fun e => decide (e.kind = d.kind)) :=
    List.mem_filter.mpr ⟨hd, by simp⟩
  obtain ⟨e, he⟩ := List.length_eq_one_iff.mp
    (Nat.le_antisymm hone (List.length_pos_of_mem hmem))
  rw [he, List.mem_singleton] at hmem
  rw [firstOf?, ← List.head?_filter, he, hmem]
  rfl

theorem firstOf?_isSome (l : ArgumentList) (kind : ArgumentKind) :
    (l.firstOf? kind).isSome = l.hasKind kind := by
  rw [Bool.eq_iff_iff, firstOf?, List.find?_isSome, hasKind_iff]
  simp

end ArgumentList

/-! ## Discovered lists -/

/-- The list has been discovered, for a type or for one of its fields. -/
inductive Discovered : ArgumentList → Prop
  | type (d : Discovery) (typeName : String) : Discovered (d.ofType typeName)
  | field (d : Discovery) (model : String) (field : Field) :
      Discovered (d.ofSingleField model field)

namespace Discovered

variable {l : ArgumentList}

/-- Pseudo-arguments are not discovered. -/
theorem kind_eq (h : Discovered l) {a : Descriptor} (ha : a ∈ l.descriptors) :
    a.kind = .filter := by
  cases h with
  | type d typeName =>
    obtain ⟨chain, -, hdescribes⟩ := Discovery.exists_describes ha
    exact hdescribes.kind
  | field d model field =>
    have hall : List.Forall₂ d.Describes _ (d.ofSingleField model field).descriptors :=
      Discovery.describes_ofField Discovery.along_root ⟨⟨"", model, []⟩, 0, field⟩
    obtain ⟨chain, -, hdescribes⟩ := Discovery.exists_mem_of_forall₂ hall ha
    exact hdescribes.kind

theorem pseudoOnce (h : Discovered l) : l.PseudoOnce := by
  intro kind hkind
  have hzero : l.countOf kind = 0 := by
    rw [ArgumentList.countOf, List.countP_eq_zero]
    intro a ha hsame
    rw [decide_eq_true_eq, h.kind_eq ha] at hsame
    exact hkind hsame.symm
  rw [hzero]
  exact Nat.zero_le 1

end Discovered

end FieldQuery
