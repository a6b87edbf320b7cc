import FieldQuery.Graph.Schema
import FieldQuery.Literal
import FieldQuery.Text.Distance

/-!
# Calls of the query field

A call gives values to arguments and selects fields of the objects it gets. It is accepted if each
name is there to be used, and if fields are selected of objects and of nothing else.
-/

namespace FieldQuery.Graph

/-- A field, and what is selected of the objects it holds. -/
inductive Selection where
  | field (name : String) (selections : List Selection)
  deriving Repr

structure Call where
  arguments : List (String × Literal)
  selections : List Selection
  deriving Repr

inductive CallFault where
  | tooDeep
  | unknownField (field type : String) (similar : List String)
  | fieldsOfLeaf (field type : String)
  | noFieldsOf (field type : String)
  | unknownArgument (argument : String) (similar : List String)
  | repeatedArgument (argument : String)
  deriving DecidableEq, Repr

/-- How many selections may stand inside one another. -/
def maxDepth : Nat := 32

def CallFault.suggestion : List String → String
  | [] => ""
  | names => " Did you mean " ++ ", ".intercalate (names.map fun name => "\"" ++ name ++ "\"") ++ "?"

def CallFault.message : CallFault → String
  | .tooDeep => "The recursion depth of the query cannot be greater than `" ++ toString maxDepth ++ "`"
  | .unknownField field type similar =>
    s!"Unknown field \"{field}\" on type \"{type}\".{suggestion similar}"
  | .fieldsOfLeaf field type =>
    s!"Field \"{field}\" must not have a selection since type \"{type}\" has no subfields"
  | .noFieldsOf field type =>
    s!"Field \"{field}\" of type \"{type}\" must have a selection of subfields"
  | .unknownArgument argument similar =>
    s!"Unknown argument \"{argument}\" on field \"rows\" of type \"Query\".{suggestion similar}"
  | .repeatedArgument argument => s!"There can only be one argument named \"{argument}\""

namespace Schema

/-- The fields that can be selected of a type. -/
def fieldsOf (s : Schema) (type : String) : List (String × GraphType) :=
  match s.declared? type with
  | some (.object object) => object.fields.map fun field => (field.name, field.type)
  | some .query => [("rows", s.rowsType)]
  | _ => []

def isLeaf (s : Schema) (type : String) : Bool :=
  match s.declared? type with
  | some d => d.isInput
  | none => true

/-- Whether a field is selected of, against whether it can be. -/
def shapeFaults (s : Schema) (field type : String) (selections : List Selection) :
    List CallFault :=
  if s.isLeaf type then if selections.isEmpty then [] else [.fieldsOfLeaf field type]
  else if selections.isEmpty then [.noFieldsOf field type]
  else []

mutual

def selectionFaults (s : Schema) (type : String) : List Selection → List CallFault
  | [] => []
  | selection :: rest => s.fieldFaults type selection ++ s.selectionFaults type rest

/-- The name of its type can be asked of every object. -/
def fieldFaults (s : Schema) (type : String) : Selection → List CallFault
  | .field "__typename" _ => []
  | .field name selections =>
    let fields := s.fieldsOf type
    match fields.lookup name with
    | none => [.unknownField name type (Text.similar (fields.map (·.1)) name)]
    | some inner =>
      s.shapeFaults name inner.baseName selections ++ s.selectionFaults inner.baseName selections

end

/-- Faults of the arguments, given the names of those before. -/
def argumentFaults (s : Schema) (earlier : List String) : List String → List CallFault
  | [] => []
  | name :: rest =>
    let names := s.arguments.map (·.name)
    (if earlier.contains name then [.repeatedArgument name] else []) ++
      (if names.contains name then [] else [.unknownArgument name (Text.similar names name)]) ++
      s.argumentFaults (name :: earlier) rest

end Schema

mutual

/-- How many selections stand inside one another. -/
def Selection.depth : Selection → Nat
  | .field _ selections => Selection.depths selections

def Selection.depths : List Selection → Nat
  | [] => 0
  | [selection] => selection.depth + 1
  | selection :: rest => max (selection.depth + 1) (Selection.depths rest)

end

/-- What is wrong with a call. One that goes too deep is not looked at any further. -/
def Call.faults (s : Schema) (call : Call) : List CallFault :=
  if maxDepth < Selection.depths call.selections then [.tooDeep]
  else
    s.shapeFaults "rows" s.root call.selections ++
      s.argumentFaults [] (call.arguments.map (·.1)) ++ s.selectionFaults s.root call.selections

end FieldQuery.Graph
