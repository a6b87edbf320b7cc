import FieldQuery.Format
import FieldQuery.Text.Digits

/-!
# JSON texts

A JSON text as it is written, with repeated members and as much of each scalar as configuration
needs.
-/

namespace FieldQuery

inductive JsonText where
  | null
  | boolean (b : Bool)
  /-- With its value, if it is written as a natural number of at most 64 bits. -/
  | number (natural? : Option Nat)
  /-- With its value, unless an escape names half of a surrogate pair. -/
  | string (text? : Option String)
  | array (items : List JsonText)
  /-- Names are read as texts are. -/
  | object (members : List (Option String × JsonText))
  deriving Repr

namespace JsonText

def isBlank (c : Char) : Bool := c == ' ' || c == '\n' || c == '\t' || c == '\r'

def skipBlanks (cs : List Char) : List Char := cs.dropWhile isBlank

/-! ## Strings -/

def hexDigit? (c : Char) : Option Nat :=
  if c.isDigit then some (c.toNat - '0'.toNat)
  else if 'a' ≤ c ∧ c ≤ 'f' then some (c.toNat - 'a'.toNat + 10)
  else if 'A' ≤ c ∧ c ≤ 'F' then some (c.toNat - 'A'.toNat + 10)
  else none

def hexCode? (digits : List Char) : Option Nat :=
  digits.foldlM (fun n c => (hexDigit? c).map (16 * n + ·)) 0

def isHighSurrogate (code : Nat) : Bool := 0xD800 ≤ code && code < 0xDC00

def isLowSurrogate (code : Nat) : Bool := 0xDC00 ≤ code && code < 0xE000

def shortEscape? (c : Char) : Option Char :=
  [('"', '"'), ('\\', '\\'), ('/', '/'), ('b', '\x08'), ('f', '\x0c'), ('n', '\n'), ('r', '\r'),
    ('t', '\t')].lookup c

/-- The character read in front of the text so far, if both are known. -/
def push (text? : Option (List Char)) (c : Char) : Option (List Char) := text?.map (c :: ·)

/-- A string after its opening quote; `text?` is read so far, last character first. -/
def stringFrom (text? : Option (List Char)) : List Char → Option (Option String × List Char)
  | [] => none
  | '"' :: rest => some (text?.map fun cs => String.ofList cs.reverse, rest)
  | '\\' :: 'u' :: a :: b :: c :: d :: rest =>
    match hexCode? [a, b, c, d] with
    | none => none
    | some code =>
      if isHighSurrogate code then
        match rest with
        | '\\' :: 'u' :: e :: f :: g :: h :: others =>
          match hexCode? [e, f, g, h] with
          | none => none
          | some low =>
            if isLowSurrogate low then
              let whole := 0x10000 + (code - 0xD800) * 0x400 + (low - 0xDC00)
              stringFrom (push text? (Char.ofNat whole)) others
            else stringFrom none others
        | rest => stringFrom none rest
      else if isLowSurrogate code then stringFrom none rest
      else stringFrom (push text? (Char.ofNat code)) rest
  | '\\' :: e :: rest =>
    match shortEscape? e with
    | some c => stringFrom (push text? c) rest
    | none => none
  | c :: rest => if c.toNat < 32 then none else stringFrom (push text? c) rest

/-! ## Numbers -/

/-- The digits at the front, at least one. -/
def digits? (cs : List Char) : Option (List Char × List Char) :=
  let digits := cs.takeWhile Char.isDigit
  if digits = [] then none else some (digits, cs.drop digits.length)

/-- What follows a fraction, and whether there is one. -/
def fraction? : List Char → Option (Bool × List Char)
  | '.' :: rest => (digits? rest).map fun (_, rest) => (true, rest)
  | cs => some (false, cs)

/-- What follows an exponent, and whether there is one. -/
def exponent? : List Char → Option (Bool × List Char)
  | e :: rest =>
    if e = 'e' ∨ e = 'E' then
      let rest := match rest with
        | s :: others => if s = '+' ∨ s = '-' then others else rest
        | [] => []
      (digits? rest).map fun (_, rest) => (true, rest)
    else some (false, e :: rest)
  | [] => some (false, [])

/-- A number; one with a sign, a fraction or an exponent is no natural number. -/
def number? (cs : List Char) : Option (JsonText × List Char) := do
  let (signed, cs) := match cs with
    | '-' :: rest => (true, rest)
    | cs => (false, cs)
  let (digits, rest) ← digits? cs
  if digits.length ≠ 1 ∧ digits.head? = some '0' then none
  else
    let (hasFraction, rest) ← fraction? rest
    let (hasExponent, rest) ← exponent? rest
    let n := Text.digitsValue digits
    let isNatural := !signed && !hasFraction && !hasExponent && n < UInt64.size
    return (.number (if isNatural then some n else none), rest)

/-! ## Values -/

/-- The rest after a word. -/
def word? (word : String) (value : JsonText) (cs : List Char) : Option (JsonText × List Char) :=
  if word.toList.isPrefixOf cs then some (value, cs.drop word.length) else none

mutual

/-- A value, with blanks before it; `fuel` bounds how many characters are read. -/
def value? (fuel : Nat) (cs : List Char) : Option (JsonText × List Char) :=
  match fuel with
  | 0 => none
  | fuel + 1 =>
    match skipBlanks cs with
    | '[' :: rest =>
      match skipBlanks rest with
      | ']' :: rest => some (.array [], rest)
      | rest => do
        let (items, rest) ← items? fuel rest
        return (.array items, rest)
    | '\x7b' :: rest =>
      match skipBlanks rest with
      | '\x7d' :: rest => some (.object [], rest)
      | rest => do
        let (members, rest) ← members? fuel rest
        return (.object members, rest)
    | '"' :: rest => (stringFrom (some []) rest).map fun (text?, rest) => (.string text?, rest)
    | cs =>
      word? "null" .null cs <|> word? "true" (.boolean true) cs <|>
        word? "false" (.boolean false) cs <|> number? cs

/-- Items up to the closing bracket. -/
def items? (fuel : Nat) (cs : List Char) : Option (List JsonText × List Char) :=
  match fuel with
  | 0 => none
  | fuel + 1 => do
    let (item, rest) ← value? fuel cs
    match skipBlanks rest with
    | ',' :: rest => do
      let (items, rest) ← items? fuel rest
      return (item :: items, rest)
    | ']' :: rest => some ([item], rest)
    | _ => none

/-- Members up to the closing brace. -/
def members? (fuel : Nat) (cs : List Char) : Option (List (Option String × JsonText) × List Char) :=
  match fuel with
  | 0 => none
  | fuel + 1 =>
    match skipBlanks cs with
    | '"' :: rest =>
      match stringFrom (some []) rest with
      | some (name?, rest) =>
        match skipBlanks rest with
        | ':' :: rest => do
          let (value, rest) ← value? fuel rest
          match skipBlanks rest with
          | ',' :: rest => do
            let (members, rest) ← members? fuel rest
            return ((name?, value) :: members, rest)
          | '\x7d' :: rest => some ([(name?, value)], rest)
          | _ => none
        | _ => none
      | _ => none
    | _ => none

end

/-- The value of a whole text. -/
def ofText? (text : String) : Option JsonText :=
  let cs := text.toList
  match value? (2 * cs.length + 2) cs with
  | some (value, rest) => if skipBlanks rest = [] then some value else none
  | none => none

/-- A structure may be written as an array of its members. Each name in it has to be a text. -/
def format : Format JsonText where
  fields?
    | .object members => members.mapM fun (name?, value) => name?.map (·, value)
    | _ => none
  positional?
    | .array items => some items
    | _ => none
  list?
    | .array items => some items
    | _ => none
  natural?
    | .number natural? => natural?
    | _ => none
  boolean?
    | .boolean b => some b
    | _ => none
  text?
    | .string text? => text?
    | _ => none

end JsonText

end FieldQuery
