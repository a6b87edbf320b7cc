import FieldQuery.Schema.GraphType
import FieldQuery.Text.Quoted

/-!
# Object types and their registry

An object type declares fields in order and names the model behind it. The registry holds object
types by name.
-/

namespace FieldQuery

structure Field where
  name : String
  type : GraphType
  description : Option String
  deriving DecidableEq, Repr

structure ObjectType where
  name : String
  /-- The type on the data side, of which a path resolver is asked. -/
  model : String
  fields : List Field
  deriving DecidableEq, Repr

/-- Object types by the name they are registered under, each name once. -/
structure Registry where
  entries : List (String × ObjectType)
  deriving DecidableEq, Repr

namespace Registry

def empty : Registry := ⟨[]⟩

/-- A type replaces an earlier one of the same name. -/
def register (r : Registry) (name : String) (object : ObjectType) : Registry :=
  ⟨r.entries.filter (·.1 ≠ name) ++ [(name, object)]⟩

def resolve? (r : Registry) (name : String) : Option ObjectType := r.entries.lookup name

def contains (r : Registry) (name : String) : Bool := (r.resolve? name).isSome

def size (r : Registry) : Nat := r.entries.length

def isEmpty (r : Registry) : Bool := r.entries.isEmpty

/-- Puts a name in front of the first greater one. -/
def insertName (name : String) : List String → List String
  | [] => [name]
  | other :: rest => if name < other then name :: other :: rest else other :: insertName name rest

/-- The registered names in the order of their characters. -/
def names (r : Registry) : List String := r.entries.foldr (insertName ·.1) []

/-- A summary for logs. -/
def summary (r : Registry) : String :=
  let types := ", ".intercalate (r.names.map Text.quoted)
  "TypeRegistry \x7b types: [" ++ types ++ "] \x7d"

end Registry

end FieldQuery
