import FieldQuery.Path.Entity
import FieldQuery.Json.Basic

/-!
# Member access

Member names relative to a scope. The empty path is the scope itself, written `it`.
-/

namespace FieldQuery

structure MemberPath where
  members : List String
  deriving DecidableEq, Repr

namespace MemberPath

/-- The members of all segments in a row. -/
def ofSegments (segments : List Segment) : MemberPath := ⟨segments.flatMap Segment.members⟩

def ofEntityPath (p : EntityPath) : MemberPath := ofSegments p.segments

def isEmpty (p : MemberPath) : Bool := p.members.isEmpty

def dotted (members : List String) : String := ".".intercalate members

def toString (p : MemberPath) : String := if p.members = [] then "it" else dotted p.members

end MemberPath

end FieldQuery
