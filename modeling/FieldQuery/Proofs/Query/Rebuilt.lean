import Mathlib
import FieldQuery.Proofs.Query.Evaluation
import FieldQuery.Query.Documents

/-!
# Expressions built alike

An expression of the same build, whose comparisons succeed wherever those of another one do and with
the same outcome, itself succeeds wherever the other one does.
-/

namespace FieldQuery

/-! ## Access -/

namespace MemberPath

theorem follow_mono {np np' : Bool} (flag : np = true → np' = true) {seen rest : List String}
    {value v : Json} (h : follow np seen rest value = .ok v) :
    follow np' seen rest value = .ok v := by
  cases np with
  | true => rwa [flag rfl]
  | false =>
    induction rest generalizing seen value with
    | nil => exact h
    | cons name rest ih =>
      unfold follow at h ⊢
      cases hnull : value.isNull with
      | true => simp [hnull] at h
      | false =>
        simp only [hnull, Bool.false_eq_true, if_false] at h ⊢
        exact ih h

/-- More nulls are read as null, and what was read before is read alike. -/
theorem access_mono {np np' : Bool} (flag : np = true → np' = true) {p : MemberPath}
    {scope v : Json} (h : p.access np scope = .ok v) : p.access np' scope = .ok v :=
  follow_mono flag h

theorem follow_propagating (seen rest : List String) (value : Json) :
    ∃ v, follow true seen rest value = .ok v := by
  induction rest generalizing seen value with
  | nil => exact ⟨value, rfl⟩
  | cons name rest ih =>
    unfold follow
    cases value.isNull with
    | true => exact ⟨.null, rfl⟩
    | false => exact ih (seen ++ [name]) (value.member name)

theorem access_propagating (p : MemberPath) (scope : Json) :
    ∃ v, p.access true scope = .ok v := follow_propagating [] p.members scope

end MemberPath

/-- The other comparison has every outcome of this one, each among parameters of its own. -/
def Comparison.Keeps (params params' : List Parameter) (c d : Comparison) : Prop :=
  ∀ scope b, c.eval params scope = .ok b → d.eval params' scope = .ok b

namespace Expr

/-! ## Searches -/

theorem anyElement_ok_mono {test test' : Json → Except QueryError Bool}
    (htest : ∀ x b, test x = .ok b → test' x = .ok b) {elements : List Json} {b : Bool}
    (h : anyElement test elements = .ok b) : anyElement test' elements = .ok b := by
  induction elements with
  | nil => exact h
  | cons element rest ih =>
    rw [anyElement_cons, bind_eq_ok] at h ⊢
    obtain ⟨found, helement, h⟩ := h
    refine ⟨found, htest _ _ helement, ?_⟩
    cases found with
    | true => exact h
    | false => exact ih h

theorem searchIn_ok_mono {test test' : Json → Except QueryError Bool}
    (htest : ∀ x b, test x = .ok b → test' x = .ok b) {collection : MemberPath} {v : Json}
    {b : Bool} (h : searchIn test collection v = .ok b) : searchIn test' collection v = .ok b := by
  cases v with
  | array elements => exact anyElement_ok_mono htest h
  | null => exact h
  | boolean | number | string | object => cases h

/-! ## Expressions -/

mutual

/-- Comparisons are replaced by related ones, and collections keep or gain null propagation. -/
inductive Rebuilt (R : Comparison → Comparison → Prop) : Expr → Expr → Prop
  | compare {c d : Comparison} (related : R c d) : Rebuilt R (.compare c) (.compare d)
  | any {collection : MemberPath} {np np' : Bool} {predicate other : Expr}
      (flag : np = true → np' = true) (element : Rebuilt R predicate other) :
      Rebuilt R (.any collection np predicate) (.any collection np' other)
  | and {parts others : List Expr} (all : RebuiltAll R parts others) :
      Rebuilt R (.and parts) (.and others)

inductive RebuiltAll (R : Comparison → Comparison → Prop) : List Expr → List Expr → Prop
  | nil : RebuiltAll R [] []
  | cons {part other : Expr} {parts others : List Expr} (first : Rebuilt R part other)
      (rest : RebuiltAll R parts others) : RebuiltAll R (part :: parts) (other :: others)

end

variable {R : Comparison → Comparison → Prop} {params params' : List Parameter}

mutual

/-- The induction is on the way the expression is rebuilt; that on the elements of a collection is
within `searchIn_ok_mono`. -/
theorem Rebuilt.eval_ok
    (hR : ∀ c d, R c d → c.Keeps params params' d)
    {e f : Expr} (h : Rebuilt R e f) {scope : Json} {b : Bool}
    (hb : e.eval params scope = .ok b) : f.eval params' scope = .ok b := by
  match h with
  | .compare related =>
    rw [eval_compare] at hb ⊢
    exact hR _ _ related scope b hb
  | .any flag element =>
    rw [eval_any, bind_eq_ok] at hb ⊢
    obtain ⟨v, hv, hb⟩ := hb
    refine ⟨v, MemberPath.access_mono flag hv, ?_⟩
    exact searchIn_ok_mono (fun x c hx => element.eval_ok hR hx) hb
  | .and all =>
    rw [eval] at hb ⊢
    exact all.evalAll_ok hR hb

theorem RebuiltAll.evalAll_ok
    (hR : ∀ c d, R c d → c.Keeps params params' d)
    {parts others : List Expr} (h : RebuiltAll R parts others) {scope : Json} {b : Bool}
    (hb : evalAll params parts scope = .ok b) : evalAll params' others scope = .ok b := by
  match h with
  | .nil => exact hb
  | .cons first rest =>
    rw [evalAll_cons, bind_eq_ok] at hb ⊢
    obtain ⟨holds, hfirst, hb⟩ := hb
    refine ⟨holds, first.eval_ok hR hfirst, ?_⟩
    cases holds with
    | true => exact rest.evalAll_ok hR hb
    | false => exact hb

end

end Expr

end FieldQuery
