import FieldQuery.Compose.Plan
import FieldQuery.Graph.Call
import FieldQuery.Graph.Output
import FieldQuery.Query.Memory

/-!
# Execution of a selection

The fields selected of an object are served one by one. A field that fails is left out and its error
logged, an object without any field left is null, and one failing item fails its whole list.
-/

namespace FieldQuery.Graph

inductive PathStep where
  | name (name : String)
  | index (index : Nat)
  deriving DecidableEq, Repr

inductive FieldError where
  | missingValue (path : List PathStep)
  | notAScalar (scalar : String) (path : List PathStep)
  | invalidItem (enumeration : String) (path : List PathStep)
  | notAList (path : List PathStep)
  /-- The parent is no document; the resolver fails before there is a path. -/
  | notADocument
  /-- The query fails, in composition or in evaluation. -/
  | query (error : QueryError)
  /-- The call is not accepted. -/
  | call (fault : CallFault)
  deriving DecidableEq, Repr

namespace FieldError

def message : FieldError → String
  | .missingValue _ => "internal: non-null types require a return value"
  | .notAScalar scalar _ =>
    s!"internal: invalid value for scalar \"{scalar}\", expected \"FieldValue::Value\""
  | .invalidItem enumeration _ => s!"internal: invalid item for enum \"{enumeration}\""
  | .notAList _ => "internal: expects an array"
  | .notADocument => "internal: not type \"serde_json::value::Value\""
  | .query error => error.message
  | .call fault => fault.message

def path : FieldError → List PathStep
  | .missingValue path => path
  | .notAScalar _ path => path
  | .invalidItem _ path => path
  | .notAList path => path
  | .notADocument => []
  | .query _ => []
  | .call _ => []

end FieldError

/-- A result, and the errors logged on the way to it. -/
abbrev Outcome (α : Type) := Except FieldError α × List FieldError

/-! ## Fields selected twice -/

mutual

/-- The values of a field selected twice: objects are merged, and otherwise the first one stays. -/
def mergeValues : Json → Json → Json
  | .object old, .object new => .object (mergeMembers old new)
  | .array old, .array new => .array (mergeItems old new)
  | old, _ => old

def mergeMembers (old : List (String × Json)) : List (String × Json) → List (String × Json)
  | [] => old
  | (name, value) :: rest =>
    match old.lookup name with
    | none => mergeMembers (old ++ [(name, value)]) rest
    | some first =>
      let merged := mergeValues first value
      let old := old.map fun entry => if entry.1 = name then (name, merged) else entry
      mergeMembers old rest

def mergeItems : List Json → List Json → List Json
  | .object old :: olds, .object new :: news => .object (mergeMembers old new) :: mergeItems olds news
  | old :: olds, _ :: news => old :: mergeItems olds news
  | olds, _ => olds

end

/-! ## Serving -/

/-- The items one after the other, up to the first that fails. -/
def serveItems (serve : List PathStep → Output → Outcome Json) (path : List PathStep) :
    Nat → List Output → Outcome (List Json)
  | _, [] => (.ok [], [])
  | index, item :: rest =>
    match serve (path ++ [.index index]) item with
    | (.error e, log) => (.error e, log)
    | (.ok value, log) =>
      let (values, later) := serveItems serve path (index + 1) rest
      (values.map (value :: ·), log ++ later)

/-- How the value of an object is served, given the object's definition. -/
abbrev ServeObject := Definition → List PathStep → Output → Outcome Json

/-- The value of a named type. What the name stands for decides, however it was declared. -/
def serveNamed (s : Schema) (serveObject : ServeObject) (name : String) (path : List PathStep)
    (output : Output) : Outcome Json :=
  match s.definition? name, output with
  | some .scalar, .literal value => (.ok value.toJson, [])
  | some .scalar, _ => (.error (.notAScalar name path), [])
  | some (.enumeration items), .literal (.enumeration item)
  | some (.enumeration items), .literal (.string item) =>
    if items.contains item then (.ok (.string item), []) else (.error (.invalidItem name path), [])
  | some (.enumeration _), _ => (.error (.invalidItem name path), [])
  | some definition, output => serveObject definition path output
  | none, _ => (.ok .null, [])

/-- The value of a type. -/
def serve (s : Schema) (serveObject : ServeObject) :
    GraphType → List PathStep → Output → Outcome Json
  | .scalar kind, path, output => serveNamed s serveObject kind.name path output
  | .enumeration name, path, output => serveNamed s serveObject name path output
  | .object name, path, output => serveNamed s serveObject name path output
  | .list element, path, .list items =>
    let (values, log) := serveItems (serve s serveObject element) path 0 items
    (values.map .array, log)
  | .list _, path, _ => (.error (.notAList path), [])
  | .nonNull inner, path, output => serve s serveObject inner path output

/-- A field may serve nothing unless its type is non-null. -/
def serveField (s : Schema) (serveObject : ServeObject) (type : GraphType) (path : List PathStep)
    (output? : Option Output) : Outcome Json :=
  match output? with
  | some output => serve s serveObject type path output
  | none => if type.isNonNull then (.error (.missingValue path), []) else (.ok .null, [])

/-- An object of the fields served; without any it is null. -/
def objectOf (members : List (String × Json)) : Json :=
  if members.isEmpty then .null else .object members

/-- A field of an object: its type, and what it hands on unless that fails. -/
structure Resolved where
  type : GraphType
  output : Except FieldError (Option Output)

/-- The field of an object; `rows` can be selected wherever there is a `Query`. -/
def resolveField? (s : Schema) (rows : Except FieldError Output) (definition : Definition)
    (parent : Output) (name : String) : Option Resolved :=
  match definition with
  | .object object =>
    (object.fields.find? (·.name = name)).map fun field =>
      match parent with
      | .document value => ⟨field.type, .ok (Output.ofJson? field.type (value.member name))⟩
      | _ => ⟨field.type, .error .notADocument⟩
  | .query => if name = "rows" then some ⟨s.rowsType, rows.map some⟩ else none
  | .scalar | .enumeration _ => none

def typeName : Definition → String
  | .object object => object.name
  | _ => "Query"

mutual

/-- The members for the selections, added to those for earlier ones, and the errors logged. -/
def selectMembers (s : Schema) (rows : Except FieldError Output) (definition : Definition)
    (path : List PathStep) (parent : Output) :
    List Selection → List (String × Json) → List (String × Json) × List FieldError
  | [], members => (members, [])
  | selection :: rest, members =>
    let (served, log) := selectMember s rows definition path parent selection
    let (members, later) :=
      selectMembers s rows definition path parent rest (mergeMembers members served)
    (members, log ++ later)

/-- The member for one selection, if it is served. Every object can tell the name of its type. -/
def selectMember (s : Schema) (rows : Except FieldError Output) (definition : Definition)
    (path : List PathStep) (parent : Output) :
    Selection → List (String × Json) × List FieldError
  | .field "__typename" _ => ([("__typename", .string (typeName definition))], [])
  | .field name selections =>
    match resolveField? s rows definition parent name with
    | none => ([], [])
    | some ⟨_, .error e⟩ => ([], [e])
    | some ⟨type, .ok output?⟩ =>
      let serveObject (definition : Definition) (path : List PathStep) (output : Output) :
          Outcome Json :=
        let (members, log) := selectMembers s rows definition path output selections []
        (.ok (objectOf members), log)
      match serveField s serveObject type (path ++ [.name name]) output? with
      | (.ok value, log) => ([(name, value)], log)
      | (.error e, log) => ([], log ++ [e])

end

/-! ## Responses -/

structure Response where
  data : Option (List Json)
  errors : List FieldError
  deriving Repr

/-- The documents of a query, to be served as rows. -/
def rowsOf (query : MemoryQuery Json) : Except FieldError (List Output) :=
  match query.toList with
  | .ok documents => .ok (documents.map .document)
  | .error e => .error (.query e)

/-- Serves the rows that an accepted call asks for. The values of its arguments stand in its text. -/
def execute (s : Schema) (arguments : ArgumentList) (call : Call) (rows : MemoryQuery Json) :
    Response :=
  let request :=
    RequestArguments.ofList (call.arguments.map fun (name, value) => (name, value.reread))
  let (query, log) := Compose.build rows arguments request .empty
  let composition := log.errors.map FieldError.query
  let serveObject (definition : Definition) (path : List PathStep) (output : Output) : Outcome Json :=
    let all := (rowsOf rows).map .list
    let (members, log) := selectMembers s all definition path output call.selections []
    (.ok (objectOf members), log)
  match rowsOf query with
  | .error e => ⟨none, composition ++ [e]⟩
  | .ok kept =>
    match serveItems (serve s serveObject (.object s.root)) [.name "rows"] 0 kept with
    | (.ok values, log) => ⟨some values, composition ++ log⟩
    | (.error e, log) => ⟨none, composition ++ log ++ [e]⟩

/-- Executes a call, or tells all that is wrong with it. -/
def respond (s : Schema) (arguments : ArgumentList) (call : Call) (rows : MemoryQuery Json) :
    Response :=
  match call.faults s with
  | [] => execute s arguments call rows
  | faults => ⟨none, faults.map .call⟩

end FieldQuery.Graph
