import Mathlib
import FieldQuery.Proofs.Path.Reach

/-!
# Documents that fit a path

Documents in which null stands only where a path allows for it. Access along the path then fails
only at a null that it starts from.
-/

namespace FieldQuery

/-- Every segment names a single member. -/
def Plain (segments : List Segment) : Prop := ∀ s ∈ segments, ∃ name, s.members = [name]

/-- The path ends in a single member that may be null unless it is required. -/
def Ends (isRequired : Bool) (segments : List Segment) : Prop :=
  ∃ last, segments.getLast? = some last ∧ last.isList = false ∧ last.isNullable = !isRequired

theorem ends_cons {isRequired : Bool} {s : Segment} {rest : List Segment}
    (h : Ends isRequired rest) : Ends isRequired (s :: rest) := by
  obtain ⟨last, hlast, h⟩ := h
  refine ⟨last, ?_, h⟩
  rw [List.getLast?_cons, hlast, Option.getD_some]

theorem ends_of_list {isRequired : Bool} {lead : List Segment} {s : Segment} {rest : List Segment}
    (hs : s.isList = true) (h : Ends isRequired (lead ++ s :: rest)) : Ends isRequired rest := by
  obtain ⟨last, hlast, hsingle, hnullable⟩ := h
  rw [List.getLast?_append, List.getLast?_cons, Option.some_or, Option.some.injEq] at hlast
  cases hrest : rest.getLast? with
  | none =>
    rw [hrest, Option.getD_none] at hlast
    rw [hlast, hsingle] at hs
    cases hs
  | some other =>
    rw [hrest, Option.getD_some] at hlast
    exact ⟨last, by rw [hrest, hlast], hsingle, hnullable⟩

/-- Along the path, null is found at segments that may be null only, and a list segment leads to an
array of elements that fit the rest, or to null. -/
inductive Fits : List Segment → Json → Prop
  | leaf {value : Json} : Fits [] value
  | null {segments : List Segment} : Fits segments .null
  | member {s : Segment} {rest : List Segment} {name : String} {value : Json}
      (present : value.isNull = false) (single : s.isList = false) (names : s.members = [name])
      (next : s.isNullable = false → (value.member name).isNull = false)
      (below : Fits rest (value.member name)) : Fits (s :: rest) value
  | noList {s : Segment} {rest : List Segment} {name : String} {value : Json}
      (present : value.isNull = false) (list : s.isList = true) (names : s.members = [name])
      (missing : value.member name = .null) : Fits (s :: rest) value
  | elements {s : Segment} {rest : List Segment} {name : String} {value : Json} {items : List Json}
      (present : value.isNull = false) (list : s.isList = true) (names : s.members = [name])
      (found : value.member name = .array items) (below : ∀ item ∈ items, Fits rest item) :
      Fits (s :: rest) value

/-! ## Access in parts -/

namespace MemberPath

theorem follow_null (seen rest : List String) : follow true seen rest .null = .ok .null := by
  cases rest <;> rfl

theorem follow_cons {np : Bool} {seen rest : List String} {name : String} {value : Json}
    (h : value.isNull = false) :
    follow np seen (name :: rest) value = follow np (seen ++ [name]) rest (value.member name) := by
  rw [follow, if_neg (by simp [h])]

theorem follow_append (np : Bool) (seen p q : List String) (value : Json) :
    follow np seen (p ++ q) value = follow np seen p value >>= follow np (seen ++ p) q := by
  induction p generalizing seen value with
  | nil =>
    rw [List.nil_append, List.append_nil, follow]
    rfl
  | cons name p ih =>
    cases hvalue : value.isNull with
    | false =>
      rw [List.cons_append, follow_cons hvalue, follow_cons hvalue, ih,
        List.append_cons seen name p]
    | true =>
      rw [(Json.isNull_iff value).mp hvalue]
      cases np with
      | true =>
        rw [follow_null, follow_null]
        exact (follow_null _ q).symm
      | false => rfl

theorem access_null {segments : List Segment} (hplain : Plain segments) (hne : segments ≠ []) :
    ∃ path, (ofSegments segments).access false .null = .error (.nullReference path) := by
  cases segments with
  | nil => exact absurd rfl hne
  | cons s rest =>
    obtain ⟨name, hname⟩ := hplain s (by simp)
    rw [access, ofSegments, List.flatMap_cons, hname]
    exact ⟨_, rfl⟩

end MemberPath

/-! ## Access along a path that fits -/

namespace Fits

variable {np : Bool} {value : Json}

/-- Single members are read up to a value that fits the rest. If nulls are not allowed, none is met
on the way, nor at its end. -/
theorem follow_lead {lead rest : List Segment} (hlead : Single lead)
    (hfits : Fits (lead ++ rest) value) (hstart : np = false → value.isNull = false)
    (hnulls : np = false → lead.any (·.isNullable) = false) (seen : List String) :
    ∃ next, MemberPath.follow np seen (lead.flatMap Segment.members) value = .ok next ∧
      Fits rest next ∧ (np = false → next.isNull = false) := by
  induction lead generalizing value seen with
  | nil => exact ⟨value, rfl, hfits, hstart⟩
  | cons s lead ih =>
    obtain ⟨hs, hrest⟩ := single_cons.mp hlead
    rw [List.cons_append] at hfits
    cases hfits with
    | null =>
      cases np with
      | true => exact ⟨.null, MemberPath.follow_null _ _, .null, by simp⟩
      | false => simp [Json.isNull] at hstart
    | member present _ names next below =>
      simp only [List.any_cons, Bool.or_eq_false_iff] at hnulls
      rw [List.flatMap_cons, names, List.singleton_append, MemberPath.follow_cons present]
      exact ih hrest below (fun hnp => next (hnulls hnp).1) (fun hnp => (hnulls hnp).2) _
    | noList _ list | elements _ list =>
      rw [hs] at list
      cases list

theorem access_single {lead : List Segment} (hlead : Single lead) (hfits : Fits lead value)
    (hstart : np = false → value.isNull = false)
    (hnulls : np = false → lead.any (·.isNullable) = false) :
    ∃ next, (MemberPath.ofSegments lead).access np value = .ok next := by
  rw [← List.append_nil lead] at hfits
  obtain ⟨next, hnext, -⟩ := hfits.follow_lead hlead hstart hnulls []
  exact ⟨next, hnext⟩

theorem access_list {lead : List Segment} {s : Segment} {rest : List Segment}
    (hlead : Single lead) (hs : s.isList = true) (hfits : Fits (lead ++ s :: rest) value)
    (hstart : np = false → value.isNull = false)
    (hnulls : np = false → lead.any (·.isNullable) = false) :
    (MemberPath.ofSegments (lead ++ [s])).access np value = .ok .null ∨
      ∃ items, (MemberPath.ofSegments (lead ++ [s])).access np value = .ok (.array items) ∧
        ∀ item ∈ items, Fits rest item := by
  obtain ⟨next, hnext, hfits, hpresent⟩ := hfits.follow_lead hlead hstart hnulls []
  have haccess : (MemberPath.ofSegments (lead ++ [s])).access np value =
      MemberPath.follow np (lead.flatMap Segment.members) s.members next := by
    rw [MemberPath.access, MemberPath.ofSegments, List.flatMap_append, List.flatMap_singleton,
      MemberPath.follow_append, hnext]
    rfl
  rw [haccess]
  cases hfits with
  | null =>
    cases np with
    | true => exact Or.inl (MemberPath.follow_null _ _)
    | false => simp [Json.isNull] at hpresent
  | member _ single =>
    rw [hs] at single
    cases single
  | noList present _ names missing =>
    rw [names, MemberPath.follow_cons present, missing]
    exact Or.inl rfl
  | elements present _ names found below =>
    rw [names, MemberPath.follow_cons present, found]
    exact Or.inr ⟨_, rfl, below⟩

end Fits

end FieldQuery
