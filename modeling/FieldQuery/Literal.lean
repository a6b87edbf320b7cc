import FieldQuery.Number.Basic

/-!
# Argument values

The values a request can supply, and their text in a query document.
-/

namespace FieldQuery

inductive Literal where
  | null
  | boolean (b : Bool)
  | number (n : Number)
  | string (s : String)
  | enumeration (name : String)
  | binary (bytes : List UInt8)
  | list (items : List Literal)
  | object (fields : List (String × Literal))
  deriving Repr

namespace Literal

def isNull : Literal → Bool
  | .null => true
  | _ => false

/-! ## Text -/

def isControl (c : Char) : Bool := c.toNat < 32 || (127 ≤ c.toNat && c.toNat < 160)

/-- Control characters without a short escape are written by their decimal number. -/
def escapedChar (c : Char) : List Char :=
  match c with
  | '\r' => ['\\', 'r']
  | '\n' => ['\\', 'n']
  | '\t' => ['\\', 't']
  | '"' => ['\\', '"']
  | '\\' => ['\\', '\\']
  | c =>
    if isControl c then
      let digits := Nat.toDigits 10 c.toNat
      ['\\', 'u'] ++ List.replicate (4 - digits.length) '0' ++ digits
    else [c]

def quotedText (s : String) : String :=
  String.ofList (['"'] ++ s.toList.flatMap escapedChar ++ ['"'])

mutual

def toString : Literal → String
  | .null => "null"
  | .boolean true => "true"
  | .boolean false => "false"
  | .number n => n.toLiteral
  | .string s => quotedText s
  | .enumeration name => name
  | .binary bytes => "[" ++ ", ".intercalate (bytes.map fun b => ToString.toString b.toNat) ++ "]"
  | .list items => "[" ++ ", ".intercalate (textsOf items) ++ "]"
  | .object fields => "\x7b" ++ ", ".intercalate (fieldTexts fields) ++ "\x7d"

def textsOf : List Literal → List String
  | [] => []
  | item :: rest => item.toString :: textsOf rest

def fieldTexts : List (String × Literal) → List String
  | [] => []
  | (name, value) :: rest => (name ++ ": " ++ value.toString) :: fieldTexts rest

end

/-! ## Reading the text back -/

/-- The number of an escape is read as hexadecimal, although it was written in decimal. -/
def rereadChar (c : Char) : Char :=
  if ['\r', '\n', '\t'].contains c then c
  else if isControl c then
    Char.ofNat ((Nat.toDigits 10 c.toNat).foldl (fun n d => 16 * n + (d.toNat - '0'.toNat)) 0)
  else c

mutual

/-- The value that a value's text is read as: bytes become a list of numbers. -/
def reread : Literal → Literal
  | .string s => .string (s.map rereadChar)
  | .binary bytes => .list (bytes.map fun b => .number (.ofInt64 (Int64.ofNat b.toNat)))
  | .list items => .list (rereadAll items)
  | .object fields => .object (rereadFields fields)
  | .null => .null
  | .boolean b => .boolean b
  | .number n => .number n.reread
  | .enumeration "true" => .boolean true
  | .enumeration "false" => .boolean false
  | .enumeration "null" => .null
  | .enumeration name => .enumeration name

def rereadAll : List Literal → List Literal
  | [] => []
  | item :: rest => item.reread :: rereadAll rest

def rereadFields : List (String × Literal) → List (String × Literal)
  | [] => []
  | (name, value) :: rest => (name, value.reread) :: rereadFields rest

end

end Literal

end FieldQuery
