import Mathlib
import FieldQuery.Proofs.Query.Rebuilt

/-!
# Null propagation

Letting more members propagate nulls takes failures away and changes no outcome, nor the statement
over stored documents. Where all of them do, no null is ever read through.
-/

namespace FieldQuery

/-- The same comparison, or the one that propagates nulls in its place. -/
def Comparison.Relaxed (c d : Comparison) : Prop :=
  d = { c with nullPropagating := d.nullPropagating } ∧
    (c.nullPropagating = true → d.nullPropagating = true)

namespace Expr

/-- Some more members propagate nulls, in comparisons and in searches. -/
abbrev Relaxed : Expr → Expr → Prop := Rebuilt Comparison.Relaxed

mutual

/-- All members propagate nulls. -/
def propagating : Expr → Expr
  | .compare c => .compare { c with nullPropagating := true }
  | .any collection _ predicate => .any collection true (propagating predicate)
  | .and parts => .and (propagatingAll parts)

def propagatingAll : List Expr → List Expr
  | [] => []
  | part :: rest => propagating part :: propagatingAll rest

end

mutual

theorem relaxed_propagating (e : Expr) : Relaxed e e.propagating := by
  match e with
  | .compare c => exact .compare ⟨rfl, fun _ => rfl⟩
  | .any collection np predicate => exact .any (fun _ => rfl) (relaxed_propagating predicate)
  | .and parts => exact .and (relaxed_propagatingAll parts)

theorem relaxed_propagatingAll (parts : List Expr) :
    RebuiltAll Comparison.Relaxed parts (propagatingAll parts) := by
  match parts with
  | [] => exact .nil
  | part :: rest => exact .cons (relaxed_propagating part) (relaxed_propagatingAll rest)

end

variable {params : List Parameter}

theorem keeps_of_relaxed (c d : Comparison) (h : c.Relaxed d) : c.Keeps params params d := by
  intro scope b hb
  rw [h.1]
  unfold Comparison.eval at hb ⊢
  cases hparam : params[c.param]? with
  | none => simp only [hparam] at hb; cases hb
  | some param =>
    simp only [hparam, bind_eq_ok] at hb ⊢
    obtain ⟨v, hv, hb⟩ := hb
    exact ⟨v, MemberPath.access_mono h.2 hv, hb⟩

/-! ## No null is read through -/

theorem searchIn_error {test : Json → Except QueryError Bool} {collection : MemberPath} {v : Json}
    {e : QueryError} (h : searchIn test collection v = .error e) :
    e = .notACollection collection.toString ∨ ∃ x, test x = .error e := by
  cases v with
  | array elements =>
    obtain ⟨before, x, after, -, -, hx⟩ := anyElement_error_iff.mp h
    exact .inr ⟨x, hx⟩
  | null => cases h
  | boolean | number | string | object =>
    cases h
    exact .inl rfl

mutual

theorem eval_propagating_ne (e : Expr) (scope : Json) (path : String) :
    e.propagating.eval params scope ≠ .error (.nullReference path) := by
  match e with
  | .compare c =>
    intro h
    obtain ⟨v, hv⟩ := c.member.access_propagating scope
    rw [propagating, eval_compare, Comparison.eval] at h
    cases hparam : params[c.param]? with
    | none => simp only [hparam] at h; cases h
    | some param => simp only [hparam, hv] at h; cases h
  | .any collection np predicate =>
    intro h
    obtain ⟨v, hv⟩ := collection.access_propagating scope
    rw [propagating, eval_any, hv] at h
    rcases searchIn_error h with h | ⟨x, hx⟩
    · cases h
    · exact eval_propagating_ne predicate x path hx
  | .and parts =>
    rw [propagating, eval]
    exact evalAll_propagating_ne parts scope path

theorem evalAll_propagating_ne (parts : List Expr) (scope : Json) (path : String) :
    evalAll params (propagatingAll parts) scope ≠ .error (.nullReference path) := by
  match parts with
  | [] => simp [propagatingAll, evalAll]
  | part :: rest =>
    intro h
    rw [propagatingAll, evalAll_cons, bind_eq_error] at h
    rcases h with h | ⟨holds, -, h⟩
    · exact eval_propagating_ne part scope path h
    · cases holds with
      | true => exact evalAll_propagating_ne rest scope path h
      | false => cases h

end

/-! ## The statement -/

mutual

theorem ofExpr_of_relaxed {e f : Expr} (h : Relaxed e f) (base : Nat) (document : DocumentRef)
    (last : Nat) :
    Condition.ofExpr params base f document last =
      Condition.ofExpr params base e document last := by
  match h with
  | .compare related =>
    rw [related.1]
    rfl
  | .any flag element =>
    simp only [Condition.ofExpr, ofExpr_of_relaxed element]
  | .and all => simp only [Condition.ofExpr, ofExprs_of_relaxed all]

theorem ofExprs_of_relaxed {parts others : List Expr}
    (h : RebuiltAll Comparison.Relaxed parts others) (base : Nat) (document : DocumentRef)
    (last : Nat) :
    Condition.ofExprs params base others document last =
      Condition.ofExprs params base parts document last := by
  match h with
  | .nil => rfl
  | .cons first rest =>
    simp only [Condition.ofExprs, ofExpr_of_relaxed first, ofExprs_of_relaxed rest]

end

end Expr

/-- An expression some more of whose members propagate nulls has every outcome of the one it was
made from, and makes the same statement over stored documents. With all of them propagating nulls it
is still made from it so, and never fails at a null. -/
theorem propagation_only_removes_failures (params : List Parameter) (e : Expr) :
    (∀ f, e.Relaxed f →
      (∀ scope b, e.eval params scope = .ok b → f.eval params scope = .ok b) ∧
        ∀ q : DocumentQuery, q.filter ⟨f, params⟩ = q.filter ⟨e, params⟩) ∧
    e.Relaxed e.propagating ∧
    ∀ scope path, e.propagating.eval params scope ≠ .error (.nullReference path) := by
  refine ⟨fun f h => ⟨?_, ?_⟩, e.relaxed_propagating, e.eval_propagating_ne⟩
  · exact fun scope b hb => h.eval_ok Expr.keeps_of_relaxed hb
  · intro q
    simp only [DocumentQuery.filter, Expr.ofExpr_of_relaxed h]

/-! ### Ann's stays in a room with two beds -/

def twoBedsForAnn (bedsMayMiss guestMayMiss : Bool) : Expr :=
  .and [.any ⟨["Rooms"]⟩ false (.compare ⟨⟨["Detail", "Beds"]⟩, .ge, 0, bedsMayMiss⟩),
    .compare ⟨⟨["Guest", "Name"]⟩, .eq, 1, guestMayMiss⟩]

def twoBeds : Json := .object [("Detail", .object [("Beds", .number (.ofInt64 2))])]

def unfurnished : Json := .object [("Detail", .null)]

def annsRooms (rooms : List Json) : Json :=
  .object [("Rooms", .array rooms), ("Guest", .object [("Name", .string "Ann")])]

/-- The room without details is passed over only if its beds may be missing. -/
theorem relaxed_search_goes_on :
    (twoBedsForAnn false false).Relaxed (twoBedsForAnn true false) ∧
      (twoBedsForAnn false false).eval [.integer 2, .string "Ann"]
        (annsRooms [twoBeds, unfurnished]) = .ok true ∧
      (twoBedsForAnn true false).eval [.integer 2, .string "Ann"]
        (annsRooms [twoBeds, unfurnished]) = .ok true ∧
      (twoBedsForAnn false false).eval [.integer 2, .string "Ann"]
        (annsRooms [unfurnished, twoBeds]) = .error (.nullReference "Detail.Beds") ∧
      ∀ path, (twoBedsForAnn false false).propagating.eval [.integer 2, .string "Ann"]
        (annsRooms [unfurnished, twoBeds]) ≠ .error (.nullReference path) := by
  have hrelaxed : (twoBedsForAnn false false).Relaxed (twoBedsForAnn true false) :=
    .and (.cons (.any id (.compare ⟨rfl, fun _ => rfl⟩)) (.cons (.compare ⟨rfl, id⟩) .nil))
  have hfound : (twoBedsForAnn false false).eval [.integer 2, .string "Ann"]
      (annsRooms [twoBeds, unfurnished]) = .ok true := by rfl
  obtain ⟨hkept, -, hnever⟩ := propagation_only_removes_failures
    [.integer 2, .string "Ann"] (twoBedsForAnn false false)
  exact ⟨hrelaxed, hfound, (hkept _ hrelaxed).1 _ _ hfound, by rfl, hnever _⟩

end FieldQuery
