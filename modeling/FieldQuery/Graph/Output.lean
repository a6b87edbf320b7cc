import FieldQuery.Json.Basic
import FieldQuery.Literal
import FieldQuery.Schema.GraphType

/-!
# Field values of a document

What a field of a graph type serves from a stored value: an object is passed down as a document, and
whatever does not fit the type is left out.
-/

namespace FieldQuery

mutual

/-- A stored value as a literal. -/
def Literal.ofJson : Json → Literal
  | .null => .null
  | .boolean b => .boolean b
  | .number n => .number n
  | .string s => .string s
  | .array items => .list (Literal.ofJsons items)
  | .object members => .object (Literal.ofMembers members)

def Literal.ofJsons : List Json → List Literal
  | [] => []
  | item :: rest => Literal.ofJson item :: Literal.ofJsons rest

def Literal.ofMembers : List (String × Json) → List (String × Literal)
  | [] => []
  | (name, value) :: rest => (name, Literal.ofJson value) :: Literal.ofMembers rest

end

mutual

/-- The JSON form of a literal; an enum name is a string, and bytes are numbers. -/
def Literal.toJson : Literal → Json
  | .null => .null
  | .boolean b => .boolean b
  | .number n => .number n
  | .string s => .string s
  | .enumeration name => .string name
  | .binary bytes => .array (bytes.map fun b => .number (.ofInt64 (Int64.ofNat b.toNat)))
  | .list items => .array (Literal.toJsons items)
  | .object fields => .object (Literal.toMembers fields)

def Literal.toJsons : List Literal → List Json
  | [] => []
  | item :: rest => item.toJson :: Literal.toJsons rest

def Literal.toMembers : List (String × Literal) → List (String × Json)
  | [] => []
  | (name, value) :: rest => (name, value.toJson) :: Literal.toMembers rest

end

/-- What a field hands on. -/
inductive Output where
  /-- The document of an object, whose fields are served in turn. -/
  | document (value : Json)
  | list (items : List Output)
  | literal (value : Literal)
  deriving Repr

namespace Output

/-- In a list null stands for an item that is not served. -/
def null : Output := .literal .null

/-- What a field of this type serves from a stored value, if anything. -/
def ofJson? : GraphType → Json → Option Output
  | _, .null => none
  | .object _, value => some (.document value)
  | .list element, .array items =>
    some (.list (items.map fun item => (ofJson? element item).getD null))
  | .list _, _ => none
  | .enumeration _, .string name => some (.literal (.enumeration name))
  | .enumeration _, _ => none
  | .scalar _, value => some (.literal (.ofJson value))
  | .nonNull (.nonNull _), _ => none
  | .nonNull inner, value => ofJson? inner value

mutual

/-- What is handed on, as JSON. -/
def toJson : Output → Json
  | .document value => value
  | .list items => .array (toJsons items)
  | .literal value => value.toJson

def toJsons : List Output → List Json
  | [] => []
  | item :: rest => item.toJson :: toJsons rest

end

end Output

end FieldQuery
