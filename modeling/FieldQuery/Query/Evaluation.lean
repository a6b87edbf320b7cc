import FieldQuery.Calendar.Reader
import FieldQuery.Path.Access
import FieldQuery.Query.Expr

/-!
# Evaluation of filters over documents

Whether a document satisfies a filter. Reading through a null fails unless the access propagates
nulls, and so does searching what is no collection.
-/

namespace FieldQuery

/-! ## Comparing a stored value with a parameter -/

/-- An integer compares exactly if it fits the signed 64-bit range, and as a double otherwise. -/
def Number.compareInt64 (n : Number) (i : Int64) : Ordering :=
  match n.toInt64? with
  | some a => compare a.toInt i.toInt
  | none => n.toBinary64.compare (Number.ofInt64 i).toBinary64

mutual

/-- The order of a stored value and a parameter, if they can be compared at all. Lists are equal or
incomparable. -/
def Json.compare? : Json → Parameter → Option Ordering
  | .boolean a, .boolean b => some (compare a b)
  | .number n, .integer i => some (n.compareInt64 i)
  | .number n, .float x => some (n.toBinary64.compare x)
  | .string a, .string b => some (compare a b)
  | .string a, .dateTime b => (DateTime.read? a).map (·.compare b)
  | .array items, .list params => if Json.allEqual items params then some .eq else none
  | _, _ => none

def Json.allEqual : List Json → List Parameter → Bool
  | [], [] => true
  | item :: items, param :: params =>
    item.compare? param == some .eq && Json.allEqual items params
  | _, _ => false

end

/-- Null equals null, and nothing else compares with it. -/
def CompareOp.holds (op : CompareOp) (value : Json) (param : Parameter) : Bool :=
  match op with
  | .eq => (value.isNull && param.isNull) || value.compare? param == some .eq
  | .ge => value.compare? param == some .gt || value.compare? param == some .eq
  | .lt => value.compare? param == some .lt

/-! ## Expressions -/

def Comparison.eval (c : Comparison) (params : List Parameter) (scope : Json) :
    Except QueryError Bool := do
  match params[c.param]? with
  | none => throw (.unboundParameter c.param)
  | some param =>
    let value ← c.member.access c.nullPropagating scope
    return c.op.holds value param

namespace Expr

/-- The first element that satisfies or fails the test settles it. -/
def anyElement (test : Json → Except QueryError Bool) : List Json → Except QueryError Bool
  | [] => .ok false
  | element :: rest => do
    if ← test element then return true else anyElement test rest

mutual

/-- Conditions are settled from left to right, as far as needed. -/
def eval (params : List Parameter) : Expr → Json → Except QueryError Bool
  | .compare c, scope => c.eval params scope
  | .any collection nullPropagating predicate, scope => do
    match ← collection.access nullPropagating scope with
    | .null => return false
    | .array elements => anyElement (eval params predicate) elements
    | _ => throw (.notACollection collection.toString)
  | .and parts, scope => evalAll params parts scope

def evalAll (params : List Parameter) : List Expr → Json → Except QueryError Bool
  | [], _ => .ok true
  | part :: rest, scope => do
    if ← eval params part scope then evalAll params rest scope else return false

end

end Expr

def Filter.eval (f : Filter) (scope : Json) : Except QueryError Bool := f.expr.eval f.params scope

end FieldQuery
