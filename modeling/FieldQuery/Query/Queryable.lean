import FieldQuery.Query.Expr

/-!
# Queries composed step by step

A query over a collection records what is asked of it, in call order, and is answered later.
-/

namespace FieldQuery

/-- One operation on a query. -/
inductive Step where
  | filter (f : Filter)
  | orderBy (keys : List SortKey)
  | skip (count : Nat)
  | take (count : Nat)
  deriving Repr

class Queryable (Q : Type) where
  /-- The query that goes on with one more step. -/
  apply : Q → Step → Q
  /-- The empty result, whatever was composed before. -/
  none : Q → Q

namespace Queryable

variable {Q : Type} [Queryable Q]

/-- Keeps what satisfies a filter, in addition to earlier ones. -/
def filter (q : Q) (f : Filter) : Q := apply q (.filter f)

/-- Sorts by keys, the first key first, in place of any earlier order. -/
def orderBy (q : Q) (keys : List SortKey) : Q := apply q (.orderBy keys)

def skip (q : Q) (count : Nat) : Q := apply q (.skip count)

def take (q : Q) (count : Nat) : Q := apply q (.take count)

end Queryable

/-- The largest number of rows a database is asked to skip or take. -/
def maxRows : Nat := 9223372036854775807

end FieldQuery
