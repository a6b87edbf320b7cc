import Mathlib
import FieldQuery.Query.Documents
import FieldQuery.Query.Memory
import FieldQuery.Proofs.Query.Evaluation

/-!
# Runs of calls

Any calls in any order, made on a query. One that asks for nothing settles the result.
-/

namespace FieldQuery

/-- One call on a query. -/
inductive QueryCall where
  | step (s : Step)
  | none
  deriving Repr

namespace QueryCall

def isNone : QueryCall → Bool
  | .step _ => false
  | .none => true

def step? : QueryCall → Option Step
  | .step s => some s
  | .none => .none

variable {Q : Type} [Queryable Q]

def apply (q : Q) : QueryCall → Q
  | .step s => Queryable.apply q s
  | .none => Queryable.none q

def run (calls : List QueryCall) (q : Q) : Q := calls.foldl apply q

theorem run_steps {calls : List QueryCall} (h : calls.any isNone = false) (q : Q) :
    run calls q = (calls.filterMap step?).foldl Queryable.apply q := by
  induction calls generalizing q with
  | nil => rfl
  | cons call rest ih =>
    rw [List.any_cons, Bool.or_eq_false_iff] at h
    cases call with
    | step s => exact ih h.2 (Queryable.apply q s)
    | none => simp [isNone] at h

end QueryCall

/-! ## In memory -/

namespace MemoryQuery

variable {α : Type}

theorem run_eq (calls : List QueryCall) (q : MemoryQuery α) :
    QueryCall.run calls q =
      { q with
        steps := q.steps ++ calls.filterMap QueryCall.step?
        isNone := q.isNone || calls.any QueryCall.isNone } := by
  induction calls generalizing q with
  | nil => simp [QueryCall.run]
  | cons call rest ih =>
    rw [QueryCall.run, List.foldl_cons, ← QueryCall.run, ih, List.filterMap_cons]
    cases call <;> simp [QueryCall.apply, Queryable.apply, Queryable.none, QueryCall.step?,
      QueryCall.isNone]

theorem runSteps_cons (step : Step) (rest : List Step) (rows : List (Row α)) :
    runSteps (step :: rest) rows = runStep step rows >>= runSteps rest := rfl

theorem runSteps_append (before after : List Step) (rows : List (Row α)) :
    runSteps (before ++ after) rows = runSteps before rows >>= runSteps after := by
  induction before generalizing rows with
  | nil => rfl
  | cons step rest ih =>
    rw [List.cons_append, runSteps_cons, runSteps_cons, bind_assoc]
    congr 1
    funext next
    exact ih next

theorem runStep_nil (step : Step) : runStep step ([] : List (Row α)) = .ok [] := by
  cases step with
  | filter | orderBy => rfl
  | skip count => rw [runStep, List.drop_nil]
  | take count => rw [runStep, List.take_nil]

theorem runSteps_nil (steps : List Step) : runSteps steps ([] : List (Row α)) = .ok [] := by
  induction steps with
  | nil => rfl
  | cons step rest ih =>
    rw [runSteps_cons, runStep_nil]
    exact ih

/-- The rows left after all steps, in their order. -/
def rows (q : MemoryQuery α) : Except QueryError (List (Row α)) :=
  if q.isNone then .ok [] else projectAll q.project q.items >>= runSteps q.steps

theorem toList_eq (q : MemoryQuery α) : q.toList = q.rows.map (List.map (·.2)) := by
  rw [toList, rows]
  split
  · rfl
  · cases projectAll q.project q.items with
    | error => rfl
    | ok all =>
      change runSteps q.steps all >>= _ = (runSteps q.steps all).map _
      cases runSteps q.steps all <;> rfl

/-- More steps go on with the rows of the query, also if it asks for nothing. -/
theorem rows_append (q : MemoryQuery α) (steps : List Step) :
    ({ q with steps := q.steps ++ steps } : MemoryQuery α).rows = q.rows >>= runSteps steps := by
  unfold rows
  cases q.isNone with
  | true => exact (runSteps_nil steps).symm
  | false =>
    cases projectAll q.project q.items with
    | error => rfl
    | ok all => exact runSteps_append q.steps steps all

theorem projectAll_ok (document : α → Json) (items : List α) :
    projectAll (fun item => .ok (document item)) items =
      .ok (items.map fun item => (document item, item)) := by
  induction items with
  | nil => rfl
  | cons item rest ih =>
    rw [projectAll, ih]
    rfl

theorem filterRows_cons_eq_ok {f : Filter} {row : Row α} {rest kept : List (Row α)} :
    filterRows f (row :: rest) = .ok kept ↔
      ∃ keep others, f.eval row.1 = .ok keep ∧ filterRows f rest = .ok others ∧
        kept = if keep then row :: others else others := by
  rw [filterRows]
  simp only [bind_eq_ok, pure, Except.pure, Except.ok.injEq]
  constructor
  · rintro ⟨keep, hrow, others, hrest, rfl⟩
    exact ⟨keep, others, hrow, hrest, rfl⟩
  · rintro ⟨keep, others, hrow, hrest, rfl⟩
    exact ⟨keep, hrow, others, hrest, rfl⟩

/-- A filter that fails on no row keeps the rows it holds of. -/
theorem filterRows_ok {f : Filter} {rows kept : List (Row α)} {keep : Row α → Bool}
    (h : filterRows f rows = .ok kept) (hkeep : ∀ row b, f.eval row.1 = .ok b → keep row = b) :
    kept = rows.filter keep := by
  induction rows generalizing kept with
  | nil => simpa [filterRows] using h.symm
  | cons row rest ih =>
    obtain ⟨b, others, hrow, hrest, rfl⟩ := filterRows_cons_eq_ok.mp h
    rw [List.filter_cons, hkeep row b hrow, ih hrest]

end MemoryQuery

/-! ## Over stored documents -/

namespace DocumentQuery

@[simp] theorem isNone_unpaged (q : DocumentQuery) : q.unpaged.isNone = q.isNone := by
  unfold unpaged
  split <;> rfl

theorem isNone_applyStep (q : DocumentQuery) (step : Step) :
    (q.applyStep step).isNone = q.isNone := by
  cases step with
  | filter f => exact isNone_unpaged q
  | orderBy keys =>
    rw [applyStep, orderBy]
    split
    · rfl
    · exact isNone_unpaged q
  | skip | take => rfl

theorem isNone_run (calls : List QueryCall) (q : DocumentQuery) :
    (QueryCall.run calls q).isNone = (q.isNone || calls.any QueryCall.isNone) := by
  induction calls generalizing q with
  | nil => simp [QueryCall.run]
  | cons call rest ih =>
    rw [QueryCall.run, List.foldl_cons, ← QueryCall.run, ih, List.any_cons, ← Bool.or_assoc]
    congr 1
    cases call with
    | step s =>
      rw [QueryCall.isNone, Bool.or_false]
      exact isNone_applyStep q s
    | none => simp [QueryCall.apply, Queryable.none, QueryCall.isNone, isNone, withClauses, clauses]

end DocumentQuery

end FieldQuery
