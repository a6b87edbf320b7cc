import FieldQuery.Number.Basic

/-!
# Documents

The stored form of an entity, and the value found under a member name.
-/

namespace FieldQuery

inductive Json where
  | null
  | boolean (b : Bool)
  | number (n : Number)
  | string (s : String)
  | array (items : List Json)
  | object (members : List (String × Json))
  deriving Repr

namespace Json

def isNull : Json → Bool
  | .null => true
  | _ => false

/-- The value of a member; one that is missing, or asked of no object, reads as null. -/
def member (name : String) : Json → Json
  | .object members => (members.lookup name).getD .null
  | _ => .null

end Json

end FieldQuery
