import FieldQuery.Query.Evaluation
import FieldQuery.Query.Ordering
import FieldQuery.Query.Queryable

/-!
# Queries over a collection in memory

Items are projected to documents, and the steps run over the documents in call order.
-/

namespace FieldQuery

/-- An item with the document it is projected to. -/
abbrev Row (α : Type) := Json × α

structure MemoryQuery (α : Type) where
  items : List α
  /-- The document of an item, or why there is none. -/
  project : α → Except String Json
  steps : List Step
  isNone : Bool

namespace MemoryQuery

variable {α : Type}

def ofList (items : List α) (project : α → Except String Json) : MemoryQuery α :=
  ⟨items, project, [], false⟩

instance : Queryable (MemoryQuery α) where
  apply q step := { q with steps := q.steps ++ [step] }
  none q := { q with isNone := true }

/-- The documents of all items; the first item without one fails the whole query. -/
def projectAll (project : α → Except String Json) : List α → Except QueryError (List (Row α))
  | [] => .ok []
  | item :: rest =>
    match project item with
    | .error reason => .error (.projection reason)
    | .ok document => do
      let rows ← projectAll project rest
      return (document, item) :: rows

/-- The rows that satisfy the filter; the first row it fails on fails it. -/
def filterRows (f : Filter) : List (Row α) → Except QueryError (List (Row α))
  | [] => .ok []
  | row :: rest => do
    let keep ← f.eval row.1
    let kept ← filterRows f rest
    return if keep then row :: kept else kept

def runStep (step : Step) (rows : List (Row α)) : Except QueryError (List (Row α)) :=
  match step with
  | .filter f => filterRows f rows
  | .orderBy keys => .ok (InsertionSort.sort (fun a b => orderRows keys a.1 b.1) rows)
  | .skip count => .ok (rows.drop count)
  | .take count => .ok (rows.take count)

def runSteps : List Step → List (Row α) → Except QueryError (List (Row α))
  | [], rows => .ok rows
  | step :: rest, rows => do
    let rows ← runStep step rows
    runSteps rest rows

/-- The items left after all steps, in their order. -/
def toList (q : MemoryQuery α) : Except QueryError (List α) :=
  if q.isNone then .ok []
  else do
    let rows ← projectAll q.project q.items
    let rows ← runSteps q.steps rows
    return rows.map (·.2)

end MemoryQuery

end FieldQuery
