import FieldQuery.Error
import FieldQuery.Path.Entity
import FieldQuery.Schema.GraphType

/-!
# Argument descriptors

One descriptor stands for each leaf that can be filtered on, and one for each of the pseudo-arguments
for order, page and page size.
-/

namespace FieldQuery

inductive ArgumentKind where
  | filter
  | orderBy
  | page
  | pageSize
  deriving DecidableEq, Repr

/-- An argument backed by a leaf of the schema. -/
structure FilterArgument where
  /-- The field names on the way to the leaf, run together. -/
  graphPath : String
  path : EntityPath
  path_ne : path.segments ≠ []
  type : GraphType
  /-- The leaf itself never holds null. -/
  isRequired : Bool
  deriving DecidableEq, Repr

inductive ArgumentRole where
  | filter (argument : FilterArgument)
  | orderBy (name : String)
  | page (name : String)
  | pageSize (name : String)
  deriving DecidableEq, Repr

structure Descriptor where
  role : ArgumentRole
  description : Option String
  deriving DecidableEq, Repr

namespace Descriptor

/-- A filter is named after its graph path and needs a path into the entity. -/
def filter (graphPath : String) (path : EntityPath) (type : GraphType) (isRequired : Bool) :
    Except QueryError Descriptor :=
  if h : path.segments ≠ [] then .ok ⟨.filter ⟨graphPath, path, h, type, isRequired⟩, none⟩
  else .error (.emptyEntityPath graphPath)

def orderBy (name : String) : Descriptor where
  role := .orderBy name
  description :=
    "Sorts the elements of a sequence in ascending or descending order according to a key."

def page (name : String) : Descriptor where
  role := .page name
  description := "Zero-based index of the page to return."

def pageSize (name : String) : Descriptor where
  role := .pageSize name
  description := "Number of elements per page."

def withDescription (d : Descriptor) (description : String) : Descriptor :=
  { d with description := description }

def kind (d : Descriptor) : ArgumentKind :=
  match d.role with
  | .filter _ => .filter
  | .orderBy _ => .orderBy
  | .page _ => .page
  | .pageSize _ => .pageSize

def filter? (d : Descriptor) : Option FilterArgument :=
  match d.role with
  | .filter argument => some argument
  | _ => none

/-- The name under which a request supplies the argument, in any case. -/
def name (d : Descriptor) : String :=
  match d.role with
  | .filter argument => argument.graphPath
  | .orderBy name => name
  | .page name => name
  | .pageSize name => name

def graphPath? (d : Descriptor) : Option String := d.filter?.map (·.graphPath)

/-- What patterns are matched against. -/
def matchKey (d : Descriptor) : String := d.name

def path (d : Descriptor) : EntityPath :=
  match d.role with
  | .filter argument => argument.path
  | _ => .empty

def type (d : Descriptor) : GraphType :=
  match d.role with
  | .filter argument => argument.type
  | .orderBy _ => .scalar .string
  | .page _ => .scalar .int
  | .pageSize _ => .scalar .int

def isRequired (d : Descriptor) : Bool :=
  match d.role with
  | .filter argument => argument.isRequired
  | _ => false

def container (d : Descriptor) : Container := .ofSegments d.path.segments

end Descriptor

end FieldQuery
