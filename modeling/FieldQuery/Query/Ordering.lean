import FieldQuery.Path.Access
import FieldQuery.Query.Expr

/-!
# Order of documents

Stored values are ordered by kind, and booleans, numbers and strings among themselves. Rows are
ordered by their sort keys, the first one that tells them apart deciding.
-/

namespace FieldQuery

namespace Json

/-- Nulls come first, then booleans, numbers, strings, arrays and objects. -/
def rank : Json → Nat
  | .null => 0
  | .boolean _ => 1
  | .number _ => 2
  | .string _ => 3
  | .array _ => 4
  | .object _ => 5

/-- Two integers of the signed 64-bit range are ordered exactly, all others as doubles. -/
def orderNumbers (a b : Number) : Ordering :=
  match a.toInt64?, b.toInt64? with
  | some a, some b => compare a.toInt b.toInt
  | _, _ => a.toBinary64.compare b.toBinary64

def order (a b : Json) : Ordering :=
  match a, b with
  | .boolean a, .boolean b => compare a b
  | .number a, .number b => orderNumbers a b
  | .string a, .string b => compare a b
  | a, b => compare a.rank b.rank

end Json

namespace SortKey

/-- A descending key orders the other way round. -/
def order (k : SortKey) (a b : Json) : Ordering :=
  match k.direction with
  | .ascending => (k.member.read a).order (k.member.read b)
  | .descending => (k.member.read b).order (k.member.read a)

end SortKey

/-- The order of two rows under keys, the first key first. -/
def orderRows (keys : List SortKey) (a b : Json) : Ordering :=
  match keys with
  | [] => .eq
  | key :: rest => (key.order a b).then (orderRows rest a b)

/-! ## Stable sorting -/

namespace InsertionSort

variable {α : Type}

/-- Moves an element in front of all at the end that it is less than; the row is held last first. -/
def insertFromEnd (order : α → α → Ordering) (x : α) : List α → List α
  | [] => [x]
  | y :: rest => if order x y = .lt then y :: insertFromEnd order x rest else x :: y :: rest

/-- Sorts by inserting the elements one by one, so that equal ones keep their order. -/
def sort (order : α → α → Ordering) (xs : List α) : List α :=
  (xs.foldl (fun sorted x => insertFromEnd order x sorted) []).reverse

end InsertionSort

end FieldQuery
