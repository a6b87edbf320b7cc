import FieldQuery.Argument.List
import FieldQuery.Query.Queryable
import FieldQuery.Request
import FieldQuery.Text.Blank
import FieldQuery.Text.Digits

/-!
# The page of a request

Pages are counted from zero: page `p` of size `n` skips `p * n` rows and takes `n`.
-/

namespace FieldQuery

structure Paging where
  skip : Nat
  take : Nat
  deriving DecidableEq, Repr

namespace Compose

/-- How an invalid value is shown; a text stands for itself. -/
def shownValue : Literal → String
  | .string s => s
  | value => value.toString

/-- The row count a value stands for, a number or its digits. -/
def rowCount? : Literal → Option Nat
  | .number n => n.toNat?.filter (· ≤ maxRows)
  | .string s => Text.readNat? (maxRows + 1) (Text.trimBlanks s.toList)
  | _ => none

def rowCount (argument : String) (value : Literal) : Except QueryError Nat :=
  match rowCount? value with
  | some n => .ok n
  | none => .error (.invalidPagingValue argument (shownValue value))

/-- The page of a request, unless it asks for none. Both paging arguments are needed. -/
def paging? (arguments : ArgumentList) (request : RequestArguments) :
    Except QueryError (Option Paging) :=
  match arguments.firstOf? .page, arguments.firstOf? .pageSize with
  | some page, some pageSize =>
    match request.supplied? page.name, request.supplied? pageSize.name with
    | none, none => .ok none
    | some _, none => .error (.incompletePaging pageSize.name page.name)
    | none, some _ => .error (.incompletePaging page.name pageSize.name)
    | some index, some size => do
      let index ← rowCount page.name index
      let size ← rowCount pageSize.name size
      if index * size ≤ maxRows then return some ⟨index * size, size⟩
      else throw (.pagingOverflow page.name pageSize.name)
  | _, _ => .ok none

end Compose

end FieldQuery
