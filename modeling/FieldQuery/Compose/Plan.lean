import FieldQuery.Compose.Filter
import FieldQuery.Compose.OrderBy
import FieldQuery.Compose.Paging

/-!
# Composition of a query

A request is resolved against an argument list to a plan, and the plan is applied to a source. The
first error stops composition; the query is then empty, so no part of a request is ever ignored.
-/

namespace FieldQuery

/-- All that a request asks for. -/
structure QueryPlan where
  filter : Option Filter
  orderBy : List SortKey
  paging : Option Paging
  deriving Repr

namespace QueryPlan

/-- First the filter, then the order, then the page. -/
def steps (p : QueryPlan) : List Step :=
  (p.filter.map Step.filter).toList ++
    (if p.orderBy.isEmpty then [] else [.orderBy p.orderBy]) ++
    match p.paging with
    | some paging => [.skip paging.skip, .take paging.take]
    | none => []

def apply {Q : Type} [Queryable Q] (p : QueryPlan) (source : Q) : Q :=
  p.steps.foldl Queryable.apply source

end QueryPlan

namespace Compose

/-- The plan of a request, or the first error. -/
def plan (arguments : ArgumentList) (request : RequestArguments) :
    Except QueryError QueryPlan := do
  let filter ← filter? arguments request
  let orderBy ← orderBy arguments request
  let paging ← paging? arguments request
  return ⟨filter, orderBy, paging⟩

variable {Q : Type} [Queryable Q]

def tryBuild (source : Q) (arguments : ArgumentList) (request : RequestArguments) :
    Except QueryError Q := do
  let plan ← plan arguments request
  return plan.apply source

/-- Logs an error and returns the empty query for it. -/
def build (source : Q) (arguments : ArgumentList) (request : RequestArguments) (log : ErrorLog) :
    Q × ErrorLog :=
  match plan arguments request with
  | .ok plan => (plan.apply source, log)
  | .error e => (Queryable.none source, log.push e)

end Compose

end FieldQuery
