import FieldQuery.Query.Queryable
import FieldQuery.Query.Statement

/-!
# Queries over stored documents

Each step extends a statement. Once rows are skipped or taken, a later filter or order applies to the
rows left, so the statement so far becomes the source of a new one.
-/

namespace FieldQuery

structure DocumentQuery where
  statement : Statement
  /-- The values of the placeholders, the first one being number 1. -/
  params : List Parameter
  /-- The greatest number given to a collection or a nested source. -/
  lastNumber : Nat
  deriving Repr

namespace Condition

mutual

/-- The condition for an expression over a document. Its parameters follow `base` earlier ones, and
collections are numbered from the number after `last` on; the greatest number given comes back. -/
def ofExpr (params : List Parameter) (base : Nat) :
    Expr → DocumentRef → (last : Nat) → Condition × Nat
  | .compare c, document, last =>
    let temporal := params[c.param]?.any Parameter.isTemporal
    (.compare document c.member c.op (base + c.param + 1) temporal, last)
  | .any collection _ predicate, document, last =>
    let number := last + 1
    let (element, last) := ofExpr params base predicate (.element number) number
    (.exist number document collection element, last)
  | .and parts, document, last =>
    let (conditions, last) := ofExprs params base parts document last
    (.all conditions, last)

def ofExprs (params : List Parameter) (base : Nat) :
    List Expr → DocumentRef → (last : Nat) → List Condition × Nat
  | [], _, last => ([], last)
  | part :: rest, document, last =>
    let (condition, last) := ofExpr params base part document last
    let (conditions, last) := ofExprs params base rest document last
    (condition :: conditions, last)

end

end Condition

namespace Clauses

def none : Clauses := ⟨[], [], .none, 0, false⟩

def isPaged (c : Clauses) : Bool := c.limit.isSome || 0 < c.offset

/-- What a statement around this one starts with: the order stays, and so does asking for nothing. -/
def outer (c : Clauses) : Clauses := { c with conditions := [], limit := .none, offset := 0 }

end Clauses

namespace DocumentQuery

/-- All documents stored in a column of a table. -/
def ofTable (table column : String) : DocumentQuery :=
  ⟨⟨column, .table table, .none⟩, [], 0⟩

def clauses (q : DocumentQuery) : Clauses := q.statement.clauses

def withClauses (q : DocumentQuery) (clauses : Clauses) : DocumentQuery :=
  { q with statement := { q.statement with clauses := clauses } }

/-- The statement as the source of a new one. -/
def nested (q : DocumentQuery) : DocumentQuery where
  statement :=
    ⟨q.statement.column, .nested q.statement.source q.clauses (q.lastNumber + 1), q.clauses.outer⟩
  params := q.params
  lastNumber := q.lastNumber + 1

/-- A query whose next filter or order applies to the rows it has now. -/
def unpaged (q : DocumentQuery) : DocumentQuery := if q.clauses.isPaged then q.nested else q

def filter (q : DocumentQuery) (f : Filter) : DocumentQuery :=
  let q := q.unpaged
  let (condition, lastNumber) :=
    Condition.ofExpr f.params q.params.length f.expr .column q.lastNumber
  { q.withClauses { q.clauses with conditions := q.clauses.conditions ++ [condition] } with
    params := q.params ++ f.params
    lastNumber := lastNumber }

/-- No keys ask for no order, and leave an earlier one in place. -/
def orderBy (q : DocumentQuery) (keys : List SortKey) : DocumentQuery :=
  if keys.isEmpty then q
  else
    let q := q.unpaged
    q.withClauses { q.clauses with orderBy := keys }

/-- Skipped rows no longer count against an earlier limit. -/
def skip (q : DocumentQuery) (count : Nat) : DocumentQuery :=
  q.withClauses { q.clauses with
    offset := min (q.clauses.offset + count) maxRows
    limit := q.clauses.limit.map (· - count) }

def take (q : DocumentQuery) (count : Nat) : DocumentQuery :=
  let count := min count maxRows
  q.withClauses { q.clauses with limit := some ((q.clauses.limit.map (min · count)).getD count) }

def applyStep (q : DocumentQuery) : Step → DocumentQuery
  | .filter f => q.filter f
  | .orderBy keys => q.orderBy keys
  | .skip count => q.skip count
  | .take count => q.take count

instance : Queryable DocumentQuery where
  apply := applyStep
  none q := q.withClauses { q.clauses with isNone := true }

def isNone (q : DocumentQuery) : Bool := q.clauses.isNone

def sql (q : DocumentQuery) : String := q.statement.sql

end DocumentQuery

end FieldQuery
