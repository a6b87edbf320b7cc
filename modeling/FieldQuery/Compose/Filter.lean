import FieldQuery.Argument.List
import FieldQuery.Calendar.Reader
import FieldQuery.Query.Expr
import FieldQuery.Request

/-!
# The filter of a request

Each filter argument that is supplied adds one fragment: a comparison at the end of its entity path,
inside one search for every list on the path. A date matches its whole day.
-/

namespace FieldQuery

/-- The test at the end of a path, by the numbers of its parameters. -/
inductive Leaf where
  | equal (param : Nat)
  /-- At or after `start`, and before `stop`. -/
  | between (start stop : Nat)
  deriving DecidableEq, Repr

namespace Leaf

/-- Nulls are allowed if the leaf may be null, or anything on the way to it. -/
def toExpr (leaf : Leaf) (segments : List Segment) (isRequired : Bool) : Expr :=
  let nullPropagating := !isRequired || segments.dropLast.any (·.isNullable)
  let compare (op : CompareOp) (param : Nat) : Expr :=
    .compare ⟨.ofSegments segments, op, param, nullPropagating⟩
  match leaf with
  | .equal param => compare .eq param
  | .between start stop => .and [compare .ge start, compare .lt stop]

/-- The test for the path that the segments `seen` since the last list begin and `rest` ends. -/
def along (leaf : Leaf) (isRequired : Bool) (seen : List Segment) : List Segment → Expr
  | [] => leaf.toExpr seen isRequired
  | s :: rest =>
    if s.isList then
      .any (.ofSegments (seen ++ [s])) (seen.any (·.isNullable)) (along leaf isRequired [] rest)
    else along leaf isRequired (seen ++ [s]) rest

end Leaf

namespace FilterArgument

/-- The day that a text supplied for a date begins, and the next one. -/
def day? (a : FilterArgument) (value : Literal) :
    Except QueryError (Option (DateTime × DateTime)) :=
  match value with
  | .string text =>
    if a.type.isDate then
      match DateTime.read? text with
      | none => .ok none
      | some start =>
        match start.nextDay? with
        | some stop => .ok (some (start, stop))
        | none => .error (.unsupportedValue a.graphPath "date out of range")
    else .ok none
  | _ => .ok none

/-- The test for a value and its parameters, numbered from `first` on. -/
def leaf (a : FilterArgument) (value : Literal) (first : Nat) :
    Except QueryError (Leaf × List Parameter) := do
  match ← a.day? value with
  | some (start, stop) => return (.between first (first + 1), [.dateTime start, .dateTime stop])
  | none =>
    let param ← Parameter.ofLiteral a.graphPath value
    return (.equal first, [param])

/-- What the argument adds to the filter for a value. -/
def fragment (a : FilterArgument) (value : Literal) (first : Nat) :
    Except QueryError (Expr × List Parameter) := do
  let (leaf, params) ← a.leaf value first
  return (leaf.along a.isRequired [] a.path.segments, params)

end FilterArgument

namespace Compose

/-- The fragments of all supplied arguments, with parameters numbered from `first` on. -/
def fragments (request : RequestArguments) (first : Nat) :
    List FilterArgument → Except QueryError (List Expr × List Parameter)
  | [] => .ok ([], [])
  | a :: rest =>
    match request.supplied? a.graphPath with
    | none => fragments request first rest
    | some value => do
      let (expr, params) ← a.fragment value first
      let (exprs, others) ← fragments request (first + params.length) rest
      return (expr :: exprs, params ++ others)

/-- The filter of a request, unless it supplies no filter argument. -/
def filter? (arguments : ArgumentList) (request : RequestArguments) :
    Except QueryError (Option Filter) := do
  match ← fragments request 0 arguments.filters with
  | ([], _) => return none
  | (exprs, params) => return some ⟨.conjunction exprs, params⟩

end Compose

end FieldQuery
