import Mathlib
import FieldQuery.Proofs.Path.Reach
import FieldQuery.Query.Evaluation

/-!
# Outcomes of evaluation

An expression yields a truth value or an error. Both are settled by the first part, or the first
element, that is not passed over.
-/

namespace FieldQuery

section

variable {ε α β : Type}

theorem bind_eq_ok {x : Except ε α} {f : α → Except ε β} {b : β} :
    (x >>= f) = .ok b ↔ ∃ a, x = .ok a ∧ f a = .ok b := by
  cases x <;> simp [bind, Except.bind]

theorem bind_eq_error {x : Except ε α} {f : α → Except ε β} {e : ε} :
    (x >>= f) = .error e ↔ x = .error e ∨ ∃ a, x = .ok a ∧ f a = .error e := by
  cases x <;> simp [bind, Except.bind]

theorem map_eq_ok {x : Except ε α} {f : α → β} {b : β} :
    x.map f = .ok b ↔ ∃ a, x = .ok a ∧ f a = b := by
  cases x <;> simp [Except.map]

end

namespace Expr

/-! ## Elements -/

variable {test : Json → Except QueryError Bool}

theorem anyElement_cons (element : Json) (rest : List Json) :
    anyElement test (element :: rest) =
      test element >>= fun found => if found then .ok true else anyElement test rest := rfl

theorem anyElement_false_iff {elements : List Json} :
    anyElement test elements = .ok false ↔ ∀ x ∈ elements, test x = .ok false := by
  induction elements with
  | nil => simp [anyElement]
  | cons element rest ih =>
    rw [anyElement_cons, bind_eq_ok, List.forall_mem_cons, ← ih]
    constructor
    · rintro ⟨found, htest, h⟩
      cases found
      · exact ⟨htest, by simpa using h⟩
      · simp at h
    · rintro ⟨htest, h⟩
      exact ⟨false, htest, by simpa using h⟩

theorem anyElement_true {elements : List Json} (h : anyElement test elements = .ok true) :
    ∃ x ∈ elements, test x = .ok true := by
  induction elements with
  | nil => simp [anyElement] at h
  | cons element rest ih =>
    rw [anyElement_cons, bind_eq_ok] at h
    obtain ⟨found, htest, h⟩ := h
    cases found
    · obtain ⟨x, hx, hfound⟩ := ih (by simpa using h)
      exact ⟨x, by simp [hx], hfound⟩
    · exact ⟨element, by simp, htest⟩

/-- A search fails at the first element that is not passed over. -/
theorem anyElement_error_iff {elements : List Json} {e : QueryError} :
    anyElement test elements = .error e ↔
      ∃ before x after, elements = before ++ x :: after ∧
        (∀ y ∈ before, test y = .ok false) ∧ test x = .error e := by
  induction elements with
  | nil => simp [anyElement]
  | cons element rest ih =>
    rw [anyElement_cons, bind_eq_error]
    constructor
    · rintro (htest | ⟨found, htest, h⟩)
      · exact ⟨[], element, rest, rfl, by simp, htest⟩
      · cases found
        · obtain ⟨before, x, after, rfl, hbefore, hx⟩ := ih.mp (by simpa using h)
          exact ⟨element :: before, x, after, rfl, by simpa [htest] using hbefore, hx⟩
        · simp at h
    · rintro ⟨before, x, after, hsplit, hbefore, hx⟩
      cases before with
      | nil =>
        simp only [List.nil_append, List.cons.injEq] at hsplit
        rw [hsplit.1]
        exact Or.inl hx
      | cons y before =>
        simp only [List.cons_append, List.cons.injEq] at hsplit
        obtain ⟨rfl, rfl⟩ := hsplit
        refine Or.inr ⟨false, hbefore element (by simp), ?_⟩
        simpa using ih.mpr ⟨before, x, after, rfl, fun z hz => hbefore z (by simp [hz]), hx⟩

/-! ## Conjunctions -/

variable {params : List Parameter} {scope : Json}

theorem evalAll_cons (part : Expr) (rest : List Expr) :
    evalAll params (part :: rest) scope =
      part.eval params scope >>= fun holds =>
        if holds then evalAll params rest scope else .ok false := by
  rw [evalAll]
  rfl

theorem eval_conjunction (parts : List Expr) :
    (conjunction parts).eval params scope = evalAll params parts scope := by
  match parts with
  | [part] =>
    rw [conjunction, evalAll_cons, evalAll]
    cases part.eval params scope with
    | error e => rfl
    | ok holds => cases holds <;> rfl
  | [] | _ :: _ :: _ => rw [conjunction, eval]; rintro e ⟨⟩

/-! ## Comparisons and collections -/

theorem eval_compare (c : Comparison) :
    (Expr.compare c).eval params scope = c.eval params scope := by
  rw [eval]

theorem eval_compare_bound {c : Comparison} {param : Parameter}
    (h : params[c.param]? = some param) :
    (Expr.compare c).eval params scope =
      (c.member.access c.nullPropagating scope).map (c.op.holds · param) := by
  rw [eval_compare, Comparison.eval, h]
  cases c.member.access c.nullPropagating scope <;> rfl

def searchIn (test : Json → Except QueryError Bool) (collection : MemberPath) :
    Json → Except QueryError Bool
  | .null => .ok false
  | .array elements => anyElement test elements
  | _ => .error (.notACollection collection.toString)

theorem eval_any (collection : MemberPath) (np : Bool) (predicate : Expr) :
    (Expr.any collection np predicate).eval params scope =
      collection.access np scope >>= searchIn (predicate.eval params) collection := by
  rw [eval]
  rfl

end Expr

end FieldQuery
