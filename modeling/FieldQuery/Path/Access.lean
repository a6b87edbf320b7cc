import FieldQuery.Error
import FieldQuery.Path.Member

/-!
# Access to members

The value that a member path leads to. Reading through a null fails, unless the access propagates
nulls.
-/

namespace FieldQuery

namespace MemberPath

/-- Follows the members `rest` from a value that the members `seen` led to. -/
def follow (nullPropagating : Bool) (seen : List String) :
    List String → Json → Except QueryError Json
  | [], value => .ok value
  | name :: rest, value =>
    if value.isNull then
      if nullPropagating then .ok .null
      else .error (.nullReference (dotted (seen ++ [name])))
    else follow nullPropagating (seen ++ [name]) rest (value.member name)

/-- The value at the end of the path; a missing member reads as null. -/
def access (p : MemberPath) (nullPropagating : Bool) (scope : Json) : Except QueryError Json :=
  follow nullPropagating [] p.members scope

/-- The value at the end of the path, with null for whatever is not there. -/
def read (p : MemberPath) (scope : Json) : Json :=
  p.members.foldl (fun value name => value.member name) scope

end MemberPath

end FieldQuery
