/-!
# Paths into an entity

The member steps from a root entity to a leaf. A step may go through a list, and may be absent.
-/

namespace FieldQuery

/-- The parts between the separators, one more than there are separators. -/
def splitOn (separator : Char) : List Char → List (List Char)
  | [] => [[]]
  | c :: rest =>
    if c = separator then [] :: splitOn separator rest
    else
      match splitOn separator rest with
      | [] => [[c]]
      | part :: parts => (c :: part) :: parts

structure Segment where
  /-- May hold dots, and then names a member of a member. -/
  path : String
  isList : Bool
  isNullable : Bool
  deriving DecidableEq, Repr

namespace Segment

/-- A step to a single member that is always there. -/
def ofPath (path : String) : Segment := ⟨path, false, false⟩

/-- The member names between the dots, empty ones left out. -/
def members (s : Segment) : List String :=
  ((splitOn '.' s.path.toList).filter (· ≠ [])).map String.ofList

end Segment

structure EntityPath where
  segments : List Segment
  deriving DecidableEq, Repr

namespace EntityPath

def empty : EntityPath := ⟨[]⟩

/-- Reads `A.B.C`; every part is a plain segment, also an empty one. -/
def parse (dotted : String) : EntityPath :=
  ⟨(splitOn '.' dotted.toList).map fun part => .ofPath (String.ofList part)⟩

def length (p : EntityPath) : Nat := p.segments.length

def isEmpty (p : EntityPath) : Bool := p.segments.isEmpty

def hasList (p : EntityPath) : Bool := p.segments.any (·.isList)

/-- The path with one more step at its end. -/
def child (p : EntityPath) (s : Segment) : EntityPath := ⟨p.segments ++ [s]⟩

def toString (p : EntityPath) : String := ".".intercalate (p.segments.map (·.path))

end EntityPath

/-- How a leaf is reached: with no list on the way, or through a nearest one. -/
inductive Container where
  | direct
  /-- The index of the last list segment. -/
  | collection (segment : Nat)
  deriving DecidableEq, Repr

/-- The nearest list to the end of a path. -/
def Container.ofSegments : List Segment → Container
  | [] => .direct
  | s :: rest =>
    match ofSegments rest with
    | .collection i => .collection (i + 1)
    | .direct => if s.isList then .collection 0 else .direct

end FieldQuery
