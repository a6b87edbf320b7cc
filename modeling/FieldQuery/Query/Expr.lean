import FieldQuery.Path.Member
import FieldQuery.Query.Parameter
import FieldQuery.Text.AsciiCase

/-!
# Filters and sort keys

A filter compares members with numbered parameters, looks for an element of a collection, or joins
such conditions. Filters and sort keys have a text for logs.
-/

namespace FieldQuery

inductive CompareOp where
  | eq
  | ge
  | lt
  deriving DecidableEq, Repr

def CompareOp.toString : CompareOp → String
  | .eq => "=="
  | .ge => ">="
  | .lt => "<"

/-- A member compared with the parameter of a number. -/
structure Comparison where
  member : MemberPath
  op : CompareOp
  param : Nat
  /-- A null on the way reads as null instead of failing. -/
  nullPropagating : Bool
  deriving DecidableEq, Repr

inductive Expr where
  | compare (comparison : Comparison)
  /-- Some element of the collection satisfies the predicate. -/
  | any (collection : MemberPath) (nullPropagating : Bool) (predicate : Expr)
  | and (parts : List Expr)
  deriving Repr

/-- The text of a member, marked if nulls on the way are allowed. -/
def MemberPath.marked (p : MemberPath) (nullPropagating : Bool) : String :=
  if nullPropagating then "np(" ++ p.toString ++ ")" else p.toString

def Comparison.toString (c : Comparison) : String :=
  c.member.marked c.nullPropagating ++ " " ++ c.op.toString ++ " @" ++ ToString.toString c.param

namespace Expr

/-- The conjunction; a single part stands for itself. -/
def conjunction : List Expr → Expr
  | [e] => e
  | parts => .and parts

mutual

def toString : Expr → String
  | .compare c => c.toString
  | .any collection nullPropagating predicate =>
    let text := collection.marked nullPropagating
    "(" ++ text ++ " != null && " ++ text ++ ".Any(" ++ predicate.toString ++ "))"
  | .and parts => " && ".intercalate (partTexts parts)

def partTexts : List Expr → List String
  | [] => []
  | part :: rest => ("(" ++ part.toString ++ ")") :: partTexts rest

end

end Expr

/-- An expression with the values its numbers stand for. -/
structure Filter where
  expr : Expr
  params : List Parameter
  deriving Repr

inductive SortDirection where
  | ascending
  | descending
  deriving DecidableEq, Repr

/-- Reads `asc` or `desc` in any ASCII case. -/
def SortDirection.parse? (token : String) : Option SortDirection :=
  if Text.eqAsciiCase token "asc" then some .ascending
  else if Text.eqAsciiCase token "desc" then some .descending
  else none

structure SortKey where
  member : MemberPath
  direction : SortDirection
  deriving DecidableEq, Repr

def SortKey.toString (k : SortKey) : String :=
  k.member.toString ++
    match k.direction with
    | .ascending => " asc"
    | .descending => " desc"

end FieldQuery
