/-!
# Mapping of field names to entity members

A resolver answers with the member path behind a field of a type. A mapping profile lists such
answers item by item, and each item works in both directions.
-/

namespace FieldQuery

/-- The member path behind a field of a source type, if wanted for one destination type only. -/
abbrev PathResolver := (sourceType field : String) → (destination? : Option String) → String

/-- Fields are named as their members are. -/
def PathResolver.identity : PathResolver := fun _ field _ => field

structure MappingItem where
  sourceType : String
  sourcePath : String
  destinationType : String
  /-- May hold dots, and then names a nested member. -/
  destinationPath : String
  deriving DecidableEq, Repr

namespace MappingItem

def reversed (m : MappingItem) : MappingItem where
  sourceType := m.destinationType
  sourcePath := m.destinationPath
  destinationType := m.sourceType
  destinationPath := m.sourcePath

/-- The item answers for this field; without a destination type any will do. -/
def answers (m : MappingItem) (sourceType field : String) (destination? : Option String) : Bool :=
  m.sourceType = sourceType && m.sourcePath = field &&
    destination?.all (m.destinationType = ·)

end MappingItem

structure MappingProfile where
  mappings : List MappingItem
  deriving DecidableEq, Repr

namespace MappingProfile

def empty : MappingProfile := ⟨[]⟩

/-- All items, and after them their reversals. -/
def bothWays (p : MappingProfile) : List MappingItem :=
  p.mappings ++ p.mappings.map MappingItem.reversed

/-- The first item that answers, or else the field itself. -/
def resolver (p : MappingProfile) : PathResolver := fun sourceType field destination? =>
  match p.bothWays.find? fun m => m.answers sourceType field destination? with
  | some m => m.destinationPath
  | none => field

end MappingProfile

end FieldQuery
