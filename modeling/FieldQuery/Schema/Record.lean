import FieldQuery.Schema.ObjectType

/-!
# Object types of records

A record names its fields in snake case and says what each of them holds. Its object type follows:
fields are in Pascal case and do not hold null unless they are optional.
-/

namespace FieldQuery

/-- What a field of a record holds. -/
inductive Held where
  | one (type : GraphType)
  | many (element : Held)
  | optional (inner : Held)
  deriving DecidableEq, Repr

namespace Held

/-- The type of what is held, null or not. -/
def nullableType : Held → GraphType
  | .one type => type
  | .many (.optional inner) => .list inner.nullableType
  | .many element => .list element.nullableType.required
  | .optional inner => inner.nullableType

/-- Whatever is not optional is there. -/
def type : Held → GraphType
  | .optional inner => inner.nullableType
  | held => held.nullableType.required

end Held

namespace Record

/-- A word ends before an underscore, before a capital after a small letter, and where letters and
digits meet. -/
def isBreak (before after : Char) : Bool :=
  (before.isLower && after.isUpper) || (before.isDigit != after.isDigit)

/-- The words of a name; `word` holds the characters of the present one, last first. -/
def wordsFrom (word : List Char) : List Char → List (List Char)
  | [] => [word.reverse]
  | '_' :: rest => word.reverse :: wordsFrom [] rest
  | c :: rest =>
    match word with
    | before :: _ =>
      if isBreak before c then word.reverse :: wordsFrom [c] rest else wordsFrom (c :: word) rest
    | [] => wordsFrom [c] rest

def capitalised : List Char → List Char
  | [] => []
  | c :: rest => c.toUpper :: rest.map Char.toLower

def pascalCase (name : String) : String :=
  String.ofList ((wordsFrom [] name.toList).flatMap capitalised)

/-- The name of a record without `Type` at its end, unless it is all of it. -/
def typeName (name : String) : String :=
  if name.endsWith "Type" ∧ name ≠ "Type" then (name.dropEnd 4).toString else name

/-- A field under its record's name for it. -/
def field (name : String) (held : Held) : Field := ⟨pascalCase name, held.type, none⟩

def objectType (name : String) (fields : List Field) : ObjectType :=
  ⟨typeName name, typeName name, fields⟩

end Record

end FieldQuery
