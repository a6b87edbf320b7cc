/-!
# Graph types

One node of a query schema: a scalar, an enumeration, an object known by its name, or a list or
non-null wrapper around another node.
-/

namespace FieldQuery

inductive ScalarKind where
  | int
  | float
  | string
  | boolean
  | id
  /-- A filter on a calendar date matches the whole day. -/
  | date
  | dateTime
  | custom (name : String)
  deriving DecidableEq, Repr

namespace ScalarKind

def name : ScalarKind → String
  | .int => "Int"
  | .float => "Float"
  | .string => "String"
  | .boolean => "Boolean"
  | .id => "ID"
  | .date => "Date"
  | .dateTime => "DateTime"
  | .custom name => name

/-- A name that no other kind has is a custom one. -/
def ofName (name : String) : ScalarKind :=
  if name = "Int" then .int
  else if name = "Float" then .float
  else if name = "String" then .string
  else if name = "Boolean" then .boolean
  else if name = "ID" then .id
  else if name = "Date" then .date
  else if name = "DateTime" then .dateTime
  else .custom name

end ScalarKind

inductive GraphType where
  | scalar (kind : ScalarKind)
  | enumeration (name : String)
  | object (name : String)
  | list (element : GraphType)
  | nonNull (inner : GraphType)
  deriving DecidableEq, Repr

namespace GraphType

def isNonNull : GraphType → Bool
  | .nonNull _ => true
  | _ => false

/-- The type that does not hold null; a type that already does not is left alone. -/
def required : GraphType → GraphType
  | .nonNull inner => .nonNull inner
  | t => .nonNull t

/-- The type without its outer non-null wrapper, if it has one. -/
def nullable : GraphType → GraphType
  | .nonNull inner => inner
  | t => t

def isDate (t : GraphType) : Bool := t.nullable = .scalar .date

/-- The object a type refers to, through one non-null wrapper. -/
def objectName? (t : GraphType) : Option String :=
  match t.nullable with
  | .object name => some name
  | _ => none

/-- What a list type holds, through one non-null wrapper on the list. -/
def element? (t : GraphType) : Option GraphType :=
  match t.nullable with
  | .list element => some element
  | _ => none

/-- The name of a custom scalar, through one non-null wrapper. -/
def customScalar? (t : GraphType) : Option String :=
  match t.nullable with
  | .scalar (.custom name) => some name
  | _ => none

/-- The name inside all wrappers. -/
def baseName : GraphType → String
  | .scalar kind => kind.name
  | .enumeration name => name
  | .object name => name
  | .list element => element.baseName
  | .nonNull inner => inner.baseName

def toString : GraphType → String
  | .scalar kind => kind.name
  | .enumeration name => name
  | .object name => name
  | .list element => "[" ++ element.toString ++ "]"
  | .nonNull inner => inner.toString ++ "!"

end GraphType

end FieldQuery
