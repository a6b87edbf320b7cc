import FieldQuery.Argument.List
import FieldQuery.Schema.ObjectType

/-!
# A schema with one query field

The field `rows` of the type `Query` lists objects of one type and takes the arguments of an argument
list. A schema is valid if every type it mentions is there, and each stands where it may.
-/

namespace FieldQuery.Graph

structure InputField where
  name : String
  type : GraphType
  description : Option String
  deriving DecidableEq, Repr

structure Schema where
  /-- The object type that `rows` lists. -/
  root : String
  arguments : List InputField
  /-- A later type replaces an earlier one of the same name. -/
  objects : List ObjectType
  /-- Enumerations with their items. -/
  enums : List (String × List String)
  deriving Repr

inductive SchemaError where
  | typeNotFound (name : String)
  | noFields (object : String)
  /-- Names that begin with two underscores are reserved. -/
  | reservedField (object field : String)
  | reservedArgument (argument : String)
  /-- An argument is of an object type. -/
  | notAnInput (argument : String)
  deriving DecidableEq, Repr

def SchemaError.message : SchemaError → String
  | .typeNotFound name => s!"Type \"{name}\" not found"
  | .noFields object => s!"Object \"{object}\" must define one or more fields"
  | .reservedField object field => s!"Field \"{object}.{field}\" must not begin with \"__\""
  | .reservedArgument argument => s!"Argument \"Query.rows.{argument}\" must not begin with \"__\""
  | .notAnInput argument => s!"Argument \"Query.rows.{argument}\" must accept a input type"

/-- The argument that a descriptor stands for. -/
def InputField.ofDescriptor (d : Descriptor) : InputField := ⟨d.name, d.type, d.description⟩

/-- An argument added twice keeps its first place and its last definition. -/
def addArgument (arguments : List InputField) (a : InputField) : List InputField :=
  if arguments.any (·.name = a.name) then
    arguments.map fun other => if other.name = a.name then a else other
  else arguments ++ [a]

def argumentsOf (l : ArgumentList) : List InputField :=
  (l.descriptors.map InputField.ofDescriptor).foldl addArgument []

/-- The scalar at the heart of a type. -/
def scalarName? : GraphType → Option String
  | .scalar kind => some kind.name
  | .list element => scalarName? element
  | .nonNull inner => scalarName? inner
  | _ => none

/-- What a type name stands for. -/
inductive Definition where
  | scalar
  | enumeration (items : List String)
  | object (object : ObjectType)
  /-- The type that the field `rows` belongs to. -/
  | query
  deriving Repr

def Definition.isInput : Definition → Bool
  | .scalar | .enumeration _ => true
  | .object _ | .query => false

def builtInScalars : List String := ["Int", "Float", "Boolean", "String", "ID"]

def isReserved (name : String) : Bool := ['_', '_'].isPrefixOf name.toList

namespace Schema

/-! ## The types of a schema -/

def rowsType (s : Schema) : GraphType := .nonNull (.list (.nonNull (.object s.root)))

/-- The scalars that arguments and objects mention. -/
def scalars (s : Schema) : List String :=
  let types := s.arguments.map (·.type) ++ s.objects.flatMap fun o => o.fields.map (·.type)
  types.filterMap scalarName?

/-- What a name is declared as. Scalars are declared by being mentioned. -/
def declared? (s : Schema) (name : String) : Option Definition :=
  if name = "Query" then some .query
  else if s.scalars.contains name && !builtInScalars.contains name then some .scalar
  else
    match s.enums.lookup name with
    | some items => some (.enumeration items)
    | none => (s.objects.reverse.find? (·.name = name)).map .object

/-- What a name stands for; the built-in scalars cannot be declared as anything else. -/
def definition? (s : Schema) (name : String) : Option Definition :=
  if builtInScalars.contains name then some .scalar else s.declared? name

/-- The types that a definition mentions, in the order of its fields. -/
def mentioned (s : Schema) : Definition → List GraphType
  | .object object => object.fields.map (·.type)
  | .query => .object s.root :: s.arguments.map (·.type)
  | .scalar | .enumeration _ => []

/-- The names of the types that have fields; `Query` comes last unless an object is named so. -/
def owners (s : Schema) : List String := (s.objects.map (·.name) ++ ["Query"]).eraseDups

def definitions (s : Schema) : List Definition := s.owners.filterMap s.definition?

/-! ## Faults -/

/-- A type that is not there. -/
def missing? (s : Schema) (type : GraphType) : Option SchemaError :=
  match s.definition? type.baseName with
  | some _ => none
  | none => some (.typeNotFound type.baseName)

def argumentFault? (s : Schema) (a : InputField) : Option SchemaError :=
  if isReserved a.name then some (.reservedArgument a.name)
  else if (s.definition? a.type.baseName).all Definition.isInput then none
  else some (.notAnInput a.name)

def definitionFault? (s : Schema) : Definition → Option SchemaError
  | .object object =>
    if object.fields.isEmpty then some (.noFields object.name)
    else
      (object.fields.find? fun field => isReserved field.name).map fun field =>
        .reservedField object.name field.name
  | .query => s.arguments.findSome? s.argumentFault?
  | .scalar | .enumeration _ => none

/-- The first fault of the schema; types that are missing come before all others. -/
def fault? (s : Schema) : Option SchemaError :=
  match (s.definitions.flatMap s.mentioned).findSome? s.missing? with
  | some fault => some fault
  | none => s.definitions.findSome? s.definitionFault?

/-- The schema of an argument list, unless it has a fault. -/
def attach (root : String) (l : ArgumentList) (objects : List ObjectType)
    (enums : List (String × List String)) : Except SchemaError Schema :=
  let s : Schema := ⟨root, argumentsOf l, objects, enums⟩
  match s.fault? with
  | some e => .error e
  | none => .ok s

/-! ## What a client sees -/

/-- The names that a declared type mentions. -/
def mentionedNames (s : Schema) (name : String) : List String :=
  match s.declared? name with
  | some d => (s.mentioned d).map (·.baseName)
  | none => []

/-- The names that are mentioned within some steps. -/
def reachFrom (s : Schema) : (steps : Nat) → List String → List String
  | 0, names => names
  | steps + 1, names => s.reachFrom steps (names ++ names.flatMap s.mentionedNames).eraseDups

/-- The types that `Query` leads to; each object is at most one step further away. -/
def visible (s : Schema) : List String := s.reachFrom (s.objects.length + 1) ["Query"]

/-- The fields of a type, as far as a client can see them. -/
def visibleFields (s : Schema) (name : String) : List Field :=
  if s.visible.contains name then
    match s.declared? name with
    | some (.object object) => object.fields
    | some .query => [⟨"rows", s.rowsType, none⟩]
    | _ => []
  else []

end Schema

end FieldQuery.Graph
