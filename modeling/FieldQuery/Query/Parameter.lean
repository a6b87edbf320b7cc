import FieldQuery.Calendar.Iso
import FieldQuery.Error
import FieldQuery.Json.Basic
import FieldQuery.Literal
import FieldQuery.Text.Quoted

/-!
# Parameters of a filter

The values a filter compares with. They are bound by number, so no value is ever part of the filter
itself.
-/

namespace FieldQuery

inductive Parameter where
  | null
  | boolean (b : Bool)
  | integer (n : Int64)
  | float (x : Binary64)
  | string (s : String)
  | dateTime (t : DateTime)
  | list (items : List Parameter)
  deriving Repr

namespace Parameter

def isNull : Parameter → Bool
  | .null => true
  | _ => false

def isTemporal : Parameter → Bool
  | .dateTime _ => true
  | _ => false

/-- An integer beyond the signed 64-bit range becomes the nearest double. -/
def ofNumber (n : Number) : Parameter :=
  match n.toInt64? with
  | some i => .integer i
  | none => .float n.toBinary64

mutual

/-- The parameter for an argument value; an enum name becomes a string. -/
def ofLiteral (argument : String) : Literal → Except QueryError Parameter
  | .null => .ok .null
  | .boolean b => .ok (.boolean b)
  | .number n => .ok (ofNumber n)
  | .string s => .ok (.string s)
  | .enumeration name => .ok (.string name)
  | .list items => (ofLiterals argument items).map .list
  | .object _ => .error (.unsupportedValue argument "input objects cannot be compared")
  | .binary _ => .error (.unsupportedValue argument "binary values cannot be compared")

def ofLiterals (argument : String) : List Literal → Except QueryError (List Parameter)
  | [] => .ok []
  | item :: rest => do
    let first ← ofLiteral argument item
    let others ← ofLiterals argument rest
    return first :: others

end

mutual

/-- The form in which an entity stores the value. -/
def toJson : Parameter → Json
  | .null => .null
  | .boolean b => .boolean b
  | .integer n => .number (.ofInt64 n)
  | .float x => .number (.float x)
  | .string s => .string s
  | .dateTime t => .string t.iso
  | .list items => .array (toJsons items)

def toJsons : List Parameter → List Json
  | [] => []
  | item :: rest => item.toJson :: toJsons rest

end

/-- Parameters are shown without an exponent, and whole doubles without a point. -/
def style : DecimalStyle := ⟨.up, none, ""⟩

mutual

def toString : Parameter → String
  | .null => "null"
  | .boolean true => "true"
  | .boolean false => "false"
  | .integer n => ToString.toString n.toInt
  | .float x => x.write style
  | .string s => Text.quoted s
  | .dateTime t => t.iso
  | .list items => "[" ++ ", ".intercalate (textsOf items) ++ "]"

def textsOf : List Parameter → List String
  | [] => []
  | item :: rest => item.toString :: textsOf rest

end

end Parameter

end FieldQuery
