import Mathlib
import FieldQuery.Path.Access

/-!
# What a path reaches

The leaves behind a path of segments, and how member access relates to them.
-/

namespace FieldQuery

/-! ## Members that are there -/

namespace Json

/-- The value of a member, if there is one. -/
def member? (name : String) : Json → Option Json
  | .object members => members.lookup name
  | _ => none

/-- The value behind a row of members, if all of them are there. -/
def at? : List String → Json → Option Json
  | [], value => some value
  | name :: rest, value => (value.member? name).bind (at? rest)

theorem member_eq (name : String) (value : Json) :
    value.member name = (value.member? name).getD .null := by
  cases value <;> rfl

@[simp] theorem at?_nil (value : Json) : value.at? [] = some value := rfl

theorem at?_cons (name : String) (rest : List String) (value : Json) :
    value.at? (name :: rest) = (value.member? name).bind (at? rest) := rfl

theorem at?_append (p q : List String) (value : Json) :
    value.at? (p ++ q) = (value.at? p).bind (at? q) := by
  induction p generalizing value with
  | nil => rfl
  | cons name p ih =>
    rw [List.cons_append, at?_cons, at?_cons, Option.bind_assoc]
    congr 1
    funext next
    exact ih next

@[simp] theorem at?_null (name : String) (rest : List String) :
    Json.null.at? (name :: rest) = none := rfl

theorem isNull_iff (value : Json) : value.isNull = true ↔ value = .null := by
  cases value <;> simp [isNull]

end Json

/-! ## Access -/

namespace MemberPath

theorem follow_ok {np : Bool} {seen rest : List String} {value v : Json}
    (h : follow np seen rest value = .ok v) : v = (value.at? rest).getD .null := by
  induction rest generalizing seen value with
  | nil =>
    simp only [follow, Except.ok.injEq] at h
    simp [h]
  | cons name rest ih =>
    unfold follow at h
    split at h
    case isTrue hnull =>
      rw [(Json.isNull_iff value).mp hnull]
      split at h
      · simpa using h.symm
      · cases h
    case isFalse =>
      have hv := ih h
      rw [Json.at?_cons, hv, Json.member_eq]
      cases value.member? name with
      | some next => rfl
      | none => cases rest <;> rfl

theorem follow_of_at? {np : Bool} {seen rest : List String} {value v : Json}
    (h : value.at? rest = some v) : follow np seen rest value = .ok v := by
  induction rest generalizing seen value with
  | nil => simpa [follow] using h
  | cons name rest ih =>
    rw [Json.at?_cons, Option.bind_eq_some_iff] at h
    obtain ⟨next, hnext, hrest⟩ := h
    have hnull : ¬ value.isNull = true := by
      rw [Json.isNull_iff]
      rintro rfl
      simp [Json.member?] at hnext
    unfold follow
    rw [if_neg hnull, Json.member_eq, hnext]
    exact ih hrest

theorem access_ok {p : MemberPath} {np : Bool} {scope v : Json}
    (h : p.access np scope = .ok v) : v = (scope.at? p.members).getD .null :=
  follow_ok h

theorem at?_of_access_ok {p : MemberPath} {np : Bool} {scope v : Json}
    (h : p.access np scope = .ok v) (hv : v.isNull = false) : scope.at? p.members = some v := by
  have hread := access_ok h
  cases hat : scope.at? p.members with
  | some found => rw [hread, hat, Option.getD_some]
  | none =>
    rw [hread, hat] at hv
    cases hv

theorem read_eq (p : MemberPath) (scope : Json) :
    p.read scope = (scope.at? p.members).getD .null := by
  unfold read
  induction p.members generalizing scope with
  | nil => rfl
  | cons name rest ih =>
    rw [List.foldl_cons, ih, Json.at?_cons, Json.member_eq]
    cases scope.member? name with
    | some next => rfl
    | none => cases rest <;> rfl

theorem access_ok_read {p : MemberPath} {np : Bool} {scope v : Json}
    (h : p.access np scope = .ok v) : v = p.read scope := by
  rw [access_ok h, read_eq]

end MemberPath

/-! ## Leaves -/

/-- A leaf reached from a value: each segment leads to members that are there, and a list segment on
to any element of the array found there. -/
inductive Reaches : List Segment → Json → Json → Prop
  | here {leaf : Json} : Reaches [] leaf leaf
  | member {s : Segment} {rest : List Segment} {scope next leaf : Json} (single : s.isList = false)
      (found : scope.at? s.members = some next) (below : Reaches rest next leaf) :
      Reaches (s :: rest) scope leaf
  | element {s : Segment} {rest : List Segment} {scope leaf item : Json} {items : List Json}
      (list : s.isList = true) (found : scope.at? s.members = some (.array items))
      (mem : item ∈ items) (below : Reaches rest item leaf) : Reaches (s :: rest) scope leaf

/-- No segment is a list. -/
def Single (segments : List Segment) : Prop := ∀ s ∈ segments, s.isList = false

theorem single_nil : Single [] := by simp [Single]

theorem single_cons {s : Segment} {rest : List Segment} :
    Single (s :: rest) ↔ s.isList = false ∧ Single rest :=
  List.forall_mem_cons

theorem single_append {lead : List Segment} {s : Segment} (hlead : Single lead)
    (hs : s.isList = false) : Single (lead ++ [s]) := by
  intro x hx
  rw [List.mem_append, List.mem_singleton] at hx
  rcases hx with hx | rfl
  · exact hlead x hx
  · exact hs

/-- Every path is a row of single members, or one that ends in a list with a path behind it. -/
theorem scopes_induction {motive : List Segment → Prop}
    (single : ∀ lead, Single lead → motive lead)
    (list : ∀ lead s rest, Single lead → s.isList = true → motive rest →
      motive (lead ++ s :: rest))
    (segments : List Segment) : motive segments := by
  -- The segments seen since the last list stay in front of those that are left.
  suffices h : ∀ seen, Single seen → motive (seen ++ segments) from h [] single_nil
  induction segments with
  | nil =>
    intro seen hseen
    rw [List.append_nil]
    exact single seen hseen
  | cons s rest ih =>
    intro seen hseen
    cases hs : s.isList with
    | true => exact list seen s rest hseen hs (ih [] single_nil)
    | false =>
      rw [List.append_cons seen s rest]
      exact ih (seen ++ [s]) (single_append hseen hs)

theorem reaches_cons_single {s : Segment} {rest : List Segment} {scope leaf : Json}
    (hs : s.isList = false) :
    Reaches (s :: rest) scope leaf ↔
      ∃ next, scope.at? s.members = some next ∧ Reaches rest next leaf := by
  constructor
  · intro h
    cases h with
    | member _ found below => exact ⟨_, found, below⟩
    | element list => rw [hs] at list; cases list
  · rintro ⟨next, found, below⟩
    exact .member hs found below

theorem reaches_cons_list {s : Segment} {rest : List Segment} {scope leaf : Json}
    (hs : s.isList = true) :
    Reaches (s :: rest) scope leaf ↔
      ∃ items, scope.at? s.members = some (.array items) ∧
        ∃ item ∈ items, Reaches rest item leaf := by
  constructor
  · intro h
    cases h with
    | member single => rw [hs] at single; cases single
    | element _ found mem below => exact ⟨_, found, _, mem, below⟩
  · rintro ⟨items, found, item, mem, below⟩
    exact .element hs found mem below

theorem reaches_append {lead rest : List Segment} {scope leaf : Json} (hlead : Single lead) :
    Reaches (lead ++ rest) scope leaf ↔
      ∃ next, scope.at? (lead.flatMap Segment.members) = some next ∧ Reaches rest next leaf := by
  induction lead generalizing scope with
  | nil => simp
  | cons s lead ih =>
    obtain ⟨hs, hrest⟩ := single_cons.mp hlead
    simp only [List.cons_append, reaches_cons_single hs, ih hrest, List.flatMap_cons,
      Json.at?_append, Option.bind_eq_some_iff]
    constructor
    · rintro ⟨next, hnext, last, hlast, below⟩
      exact ⟨last, ⟨next, hnext, hlast⟩, below⟩
    · rintro ⟨last, ⟨next, hnext, hlast⟩, below⟩
      exact ⟨next, hnext, last, hlast, below⟩

theorem reaches_single {lead : List Segment} {scope leaf : Json} (hlead : Single lead) :
    Reaches lead scope leaf ↔ scope.at? (lead.flatMap Segment.members) = some leaf := by
  rw [← List.append_nil lead, reaches_append hlead, List.append_nil]
  constructor
  · rintro ⟨_, found, below⟩
    cases below
    exact found
  · intro found
    exact ⟨leaf, found, .here⟩

theorem reaches_list {lead : List Segment} {s : Segment} {rest : List Segment} {scope leaf : Json}
    (hlead : Single lead) (hs : s.isList = true) :
    Reaches (lead ++ s :: rest) scope leaf ↔
      ∃ items, scope.at? ((lead ++ [s]).flatMap Segment.members) = some (.array items) ∧
        ∃ item ∈ items, Reaches rest item leaf := by
  simp only [reaches_append hlead, reaches_cons_list hs, List.flatMap_append,
    List.flatMap_singleton, Json.at?_append, Option.bind_eq_some_iff]
  constructor
  · rintro ⟨next, hnext, items, hitems, h⟩
    exact ⟨items, ⟨next, hnext, hitems⟩, h⟩
  · rintro ⟨items, ⟨next, hnext, hitems⟩, h⟩
    exact ⟨next, hnext, items, hitems, h⟩

end FieldQuery
