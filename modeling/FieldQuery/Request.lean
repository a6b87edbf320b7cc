import FieldQuery.Literal
import FieldQuery.Text.Lower

/-!
# Arguments of a request

The values supplied with one request, by lower-cased name, so that the case a client uses does not
matter. A null is kept.
-/

namespace FieldQuery

/-- Values by lower-cased name, in the order of the names. -/
structure RequestArguments where
  entries : List (String × Literal)
  deriving Repr

namespace RequestArguments

def empty : RequestArguments := ⟨[]⟩

/-- Puts a value in its place, over one that has the same name. -/
def insertEntry (name : String) (value : Literal) :
    List (String × Literal) → List (String × Literal)
  | [] => [(name, value)]
  | (other, old) :: rest =>
    if name < other then (name, value) :: (other, old) :: rest
    else if name = other then (name, value) :: rest
    else (other, old) :: insertEntry name value rest

def insert (r : RequestArguments) (name : String) (value : Literal) : RequestArguments :=
  ⟨insertEntry (Text.toLower name) value r.entries⟩

def get? (r : RequestArguments) (name : String) : Option Literal :=
  r.entries.lookup (Text.toLower name)

def contains (r : RequestArguments) (name : String) : Bool := (r.get? name).isSome

def size (r : RequestArguments) : Nat := r.entries.length

def isEmpty (r : RequestArguments) : Bool := r.entries.isEmpty

/-- A later pair replaces an earlier one whose name differs in case only. -/
def ofList (pairs : List (String × Literal)) : RequestArguments :=
  pairs.foldl (fun r (name, value) => r.insert name value) empty

/-- A value that is supplied and not null. -/
def supplied? (r : RequestArguments) (name : String) : Option Literal :=
  (r.get? name).filter fun value => !value.isNull

end RequestArguments

end FieldQuery
