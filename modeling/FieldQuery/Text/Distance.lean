/-!
# Distance of two texts

How many bytes have to be put in, taken out or changed to turn one text into another.
-/

namespace FieldQuery.Text

/-- From the distances of a text to the beginnings of a word, those of the text with one more byte.
The first beginning is empty; `left` is the new distance to it. -/
def nextDistances (byte : UInt8) (left : Nat) : List UInt8 → List Nat → List Nat
  | b :: word, diagonal :: above :: rest =>
    let kept := if b = byte then diagonal else diagonal + 1
    let distance := min (above + 1) (min (left + 1) kept)
    left :: nextDistances byte distance word (above :: rest)
  | _, _ => [left]

def distance (a b : String) : Nat :=
  let word := a.toList.flatMap String.utf8EncodeChar
  let bytes := b.toList.flatMap String.utf8EncodeChar
  let distances := bytes.foldl
    (fun row byte => nextDistances byte (row.head?.getD 0 + 1) word row)
    (List.range (word.length + 1))
  distances.getLast?.getD 0

/-- The names that someone may have meant, the nearest first. At least half of a name is right. -/
def similar (names : List String) (written : String) : List String :=
  let isNear (name : String) : Bool :=
    distance written name < max (written.utf8ByteSize / 2) (max (name.utf8ByteSize / 2) 1)
  (names.filter isNear).mergeSort fun a b => distance written a ≤ distance written b

end FieldQuery.Text
