import Mathlib
import FieldQuery.Query.Documents
import FieldQuery.Proofs.Query.Evaluation
import FieldQuery.Proofs.Query.Ordering

/-!
# Reading a statement

The rows that a statement asks for. A condition is read as what it was made from: a comparison as
the comparison of a member with the value of a placeholder, a search as a search of all elements.
-/

namespace FieldQuery

/-! ## Conditions -/

/-- The documents that the conditions on a row may be about. -/
structure Scope where
  row : Json
  /-- The element that the collection of a number is at. -/
  element : Nat → Json

namespace Scope

def ofRow (row : Json) : Scope := ⟨row, fun _ => .null⟩

def bind (scope : Scope) (number : Nat) (item : Json) : Scope :=
  { scope with element := fun n => if n = number then item else scope.element n }

def document (scope : Scope) : DocumentRef → Json
  | .column => scope.row
  | .element number => scope.element number

@[simp] theorem document_bind (scope : Scope) (number : Nat) (item : Json) :
    (scope.bind number item).document (.element number) = item := by
  simp [document, bind]

end Scope

/-- The value of a placeholder, the first one being number 1. -/
def placeholderValue? (params : List Parameter) : Nat → Option Parameter
  | 0 => none
  | n + 1 => params[n]?

namespace Condition

mutual

/-- Whether the documents of a scope meet the condition. -/
def meets (params : List Parameter) : Condition → Scope → Bool
  | .compare document member op placeholder _, scope =>
    (placeholderValue? params placeholder).any (op.holds (member.read (scope.document document)) ·)
  | .exist number document collection element, scope =>
    match collection.read (scope.document document) with
    | .array items => items.any fun item => meets params element (scope.bind number item)
    | _ => false
  | .all parts, scope => meetsAll params parts scope

def meetsAll (params : List Parameter) : List Condition → Scope → Bool
  | [], _ => true
  | part :: rest, scope => meets params part scope && meetsAll params rest scope

end

theorem any_of_anyElement {test : Json → Except QueryError Bool} {meets : Json → Bool}
    {items : List Json} {b : Bool} (h : Expr.anyElement test items = .ok b)
    (htest : ∀ item c, test item = .ok c → meets item = c) : items.any meets = b := by
  cases b with
  | false =>
    rw [List.any_eq_false]
    intro item hitem
    simp [htest item false (Expr.anyElement_false_iff.mp h item hitem)]
  | true =>
    obtain ⟨item, hitem, hfound⟩ := Expr.anyElement_true h
    exact List.any_eq_true.mpr ⟨item, hitem, htest item true hfound⟩

variable {all params : List Parameter} {base : Nat}

mutual

/-- Where an expression can be evaluated, the condition made from it says the same. The values of
its parameters are found behind the earlier ones. -/
theorem meets_ofExpr (hparams : ∀ i param, params[i]? = some param → all[base + i]? = some param)
    (e : Expr) (document : DocumentRef) (last : Nat) (scope : Scope) (b : Bool)
    (h : e.eval params (scope.document document) = .ok b) :
    (ofExpr params base e document last).1.meets all scope = b := by
  match e with
  | .compare c =>
    rw [Expr.eval_compare, Comparison.eval] at h
    rw [ofExpr, meets, placeholderValue?]
    cases hparam : params[c.param]? with
    | none => simp [hparam, throw, throwThe, MonadExceptOf.throw] at h
    | some param =>
      simp only [hparam, bind_eq_ok, pure, Except.pure, Except.ok.injEq] at h
      obtain ⟨value, hvalue, rfl⟩ := h
      rw [hparams _ _ hparam, Option.any_some, MemberPath.access_ok_read hvalue]
  | .any collection np predicate =>
    rw [Expr.eval_any, bind_eq_ok] at h
    obtain ⟨value, hvalue, h⟩ := h
    rw [ofExpr, meets, ← MemberPath.access_ok_read hvalue]
    cases value with
    | null => simpa [Expr.searchIn] using h
    | array items =>
      refine any_of_anyElement h ?_
      intro item c hitem
      rw [← scope.document_bind (last + 1) item] at hitem
      exact meets_ofExpr hparams predicate _ _ _ c hitem
    | boolean | number | string | object => simp [Expr.searchIn] at h
  | .and parts =>
    rw [Expr.eval] at h
    rw [ofExpr, meets]
    exact meetsAll_ofExprs hparams parts document last scope b h

theorem meetsAll_ofExprs
    (hparams : ∀ i param, params[i]? = some param → all[base + i]? = some param)
    (parts : List Expr) (document : DocumentRef) (last : Nat) (scope : Scope) (b : Bool)
    (h : Expr.evalAll params parts (scope.document document) = .ok b) :
    meetsAll all (ofExprs params base parts document last).1 scope = b := by
  match parts with
  | [] => simpa [ofExprs, meetsAll, Expr.evalAll] using h
  | part :: rest =>
    rw [Expr.evalAll_cons, bind_eq_ok] at h
    obtain ⟨holds, hpart, h⟩ := h
    rw [ofExprs, meetsAll, meets_ofExpr hparams part document last scope holds hpart]
    cases holds with
    | true => exact meetsAll_ofExprs hparams rest document _ scope b (by simpa using h)
    | false => simpa using h

end

end Condition

/-! ## Statements -/

variable {α : Type}

namespace Clauses

/-- The rows behind the offset, up to the limit. -/
def window (c : Clauses) (rows : List (Row α)) : List (Row α) :=
  match c.limit with
  | .none => rows.drop c.offset
  | some limit => (rows.drop c.offset).take limit

def keeps (params : List Parameter) (c : Clauses) (row : Row α) : Bool :=
  c.conditions.all (·.meets params (.ofRow row.1))

/-- The rows of a source that are kept, in order, and in the window. -/
def rows (params : List Parameter) (c : Clauses) (source : List (Row α)) : List (Row α) :=
  if c.isNone then []
  else c.window (sortRows c.orderBy (source.filter (c.keeps params)))

theorem window_sublist (c : Clauses) (rows : List (Row α)) : (c.window rows).Sublist rows := by
  unfold window
  split
  · exact List.drop_sublist c.offset rows
  · exact (List.take_sublist _ _).trans (List.drop_sublist c.offset rows)

theorem window_of_not_paged {c : Clauses} (h : c.isPaged = false) (rows : List (Row α)) :
    c.window rows = rows := by
  simp only [isPaged, Bool.or_eq_false_iff, Option.isSome_eq_false_iff, Option.isNone_iff_eq_none,
    decide_eq_false_iff_not, Nat.not_lt, Nat.le_zero] at h
  simp [window, h]

theorem rows_subperm (params : List Parameter) (c : Clauses) (source : List (Row α)) :
    (c.rows params source).Subperm source := by
  unfold rows
  split
  · exact List.nil_subperm
  · have hcut := (c.window_sublist (sortRows c.orderBy (source.filter (c.keeps params)))).subperm
    have hsorted := (sortRows_perm c.orderBy (source.filter (c.keeps params))).subperm
    exact (hcut.trans hsorted).trans List.filter_sublist.subperm

/-- Rows that are asked for once more under the same order are the same rows. -/
theorem rows_outer {params : List Parameter} {c : Clauses} {source : List (Row α)}
    (h : ExactRows c.orderBy source) :
    c.outer.rows params (c.rows params source) = c.rows params source := by
  unfold rows
  cases hnone : c.isNone with
  | true => simp [outer, hnone]
  | false =>
    have hkept : ExactRows c.orderBy (source.filter (c.keeps params)) :=
      h.subset List.filter_sublist.subset
    have hkeeps : c.outer.keeps params = fun _ : Row α => true := rfl
    have hpaged : c.outer.isPaged = false := rfl
    simp only [show c.outer.isNone = false from hnone, Bool.false_eq_true, if_false, hkeeps,
      List.filter_true, window_of_not_paged hpaged]
    exact sortRows_of_sublist hkept (c.window_sublist _)

end Clauses

def Source.rows (params : List Parameter) (table : List (Row α)) : Source → List (Row α)
  | .table _ => table
  | .nested source clauses _ => clauses.rows params (source.rows params table)

theorem Source.rows_subperm (params : List Parameter) (table : List (Row α)) (source : Source) :
    (source.rows params table).Subperm table := by
  induction source with
  | table name => exact List.Subperm.refl _
  | nested source clauses number ih => exact (clauses.rows_subperm params _).trans ih

def Statement.rows (params : List Parameter) (table : List (Row α)) (s : Statement) :
    List (Row α) :=
  s.clauses.rows params (s.source.rows params table)

/-- What a query over stored documents gives, with its own parameters bound. -/
def DocumentQuery.rows (table : List (Row α)) (q : DocumentQuery) : List (Row α) :=
  q.statement.rows q.params table

end FieldQuery
