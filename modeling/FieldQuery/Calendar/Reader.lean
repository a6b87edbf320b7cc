import FieldQuery.Calendar.DateTime
import FieldQuery.Text.Blank
import FieldQuery.Text.Digits

/-!
# Reading dates and times

Three forms are read: a date, a timestamp with an offset, which is converted to UTC, and a date with
a time of day. Each reader consumes the front of a text and returns the rest.
-/

namespace FieldQuery.Calendar

/-- At least `least` and at most `most` digits. -/
def digits? (least most : Nat) (cs : List Char) : Option (Nat × List Char) :=
  let digits := (cs.take most).takeWhile Char.isDigit
  if digits.length < least then none
  else some (Text.digitsValue digits, cs.drop digits.length)

/-- The rest after the character `c`. -/
def expect? (c : Char) : List Char → Option (List Char)
  | [] => none
  | d :: rest => if d = c then some rest else none

def skipBlanks (cs : List Char) : List Char := cs.dropWhile Text.isBlank

/-- Up to nine digits count as nanoseconds; the digits after them are dropped. -/
def nanoseconds? (cs : List Char) : Option (Nat × List Char) :=
  let digits := cs.takeWhile Char.isDigit
  if digits = [] then none
  else
    let kept := digits.take 9
    let filled := kept ++ List.replicate (9 - kept.length) '0'
    some (Text.digitsValue filled, cs.drop digits.length)

/-- A point and digits, or nothing. -/
def fraction? : List Char → Option (Nat × List Char)
  | '.' :: rest => nanoseconds? rest
  | cs => some (0, cs)

/-! ## Free forms: blanks may stand before each number -/

/-- Four digits at most, but any number of them after a sign. -/
def year? (cs : List Char) : Option (Int × List Char) :=
  match skipBlanks cs with
  | '-' :: rest => (digits? 1 rest.length rest).map fun (n, rest) => (-(n : Int), rest)
  | '+' :: rest => (digits? 1 rest.length rest).map fun (n, rest) => ((n : Int), rest)
  | cs => (digits? 1 4 cs).map fun (n, rest) => ((n : Int), rest)

def twoDigits? (cs : List Char) : Option (Nat × List Char) := digits? 1 2 (skipBlanks cs)

def date? (cs : List Char) : Option (Date × List Char) := do
  let (year, cs) ← year? cs
  let cs ← expect? '-' cs
  let (month, cs) ← twoDigits? cs
  let cs ← expect? '-' cs
  let (day, cs) ← twoDigits? cs
  let date ← Date.of? year month day
  return (date, cs)

def time? (cs : List Char) : Option (TimeOfDay × List Char) := do
  let (hour, cs) ← twoDigits? cs
  let cs ← expect? ':' cs
  let (minute, cs) ← twoDigits? cs
  let cs ← expect? ':' cs
  let (second, cs) ← twoDigits? cs
  let (nanosecond, cs) ← fraction? cs
  let time ← TimeOfDay.of? hour minute second nanosecond
  return (time, cs)

/-- Nothing may follow. -/
def whole? {α : Type} (read : List Char → Option (α × List Char)) (cs : List Char) : Option α :=
  match read cs with
  | some (a, []) => some a
  | _ => none

/-- A date and a time with a separator between them. -/
def dateTime? (separator? : List Char → Option (List Char)) (cs : List Char) :
    Option (DateTime × List Char) := do
  let (date, cs) ← date? cs
  let cs ← separator? cs
  let (time, cs) ← time? cs
  return (⟨date, time⟩, cs)

/-! ## Timestamps with an offset: every number has its full width -/

/-- `Z`, or a sign with hours and minutes, as minutes ahead of UTC. -/
def offset? : List Char → Option (Int × List Char)
  | [] => none
  | c :: rest =>
    if c = 'Z' ∨ c = 'z' then some (0, rest)
    else if c = '+' ∨ c = '-' ∨ c = '\u2212' then do
      let (hours, rest) ← digits? 2 2 rest
      let rest ← expect? ':' rest
      let (minutes, rest) ← digits? 2 2 rest
      if hours < 24 ∧ minutes < 60 then
        let ahead : Int := (hours * 60 + minutes : Nat)
        return (if c = '+' then ahead else -ahead, rest)
      else none
    else none

def dateMark? : List Char → Option (List Char)
  | c :: rest => if c = 'T' ∨ c = 't' ∨ c = ' ' then some rest else none
  | [] => none

/-- The point in time in UTC. -/
def timestamp? (cs : List Char) : Option (DateTime × List Char) := do
  let (year, cs) ← digits? 4 4 cs
  let cs ← expect? '-' cs
  let (month, cs) ← digits? 2 2 cs
  let cs ← expect? '-' cs
  let (day, cs) ← digits? 2 2 cs
  let cs ← dateMark? cs
  let (hour, cs) ← digits? 2 2 cs
  let cs ← expect? ':' cs
  let (minute, cs) ← digits? 2 2 cs
  let cs ← expect? ':' cs
  let (second, cs) ← digits? 2 2 cs
  let (nanosecond, cs) ← fraction? cs
  let (ahead, cs) ← offset? cs
  let date ← Date.of? year month day
  let time ← TimeOfDay.of? hour minute second nanosecond
  let utc ← DateTime.behind? ⟨date, time⟩ ahead
  return (utc, cs)

/-! ## All forms -/

/-- A date alone means its midnight. -/
def readChars? (cs : List Char) : Option DateTime :=
  ((whole? date? cs).map fun date => ⟨date, .midnight⟩)
    <|> whole? timestamp? cs
    <|> whole? (dateTime? (expect? 'T')) cs
    <|> whole? (dateTime? fun cs => some (skipBlanks cs)) cs

end FieldQuery.Calendar

namespace FieldQuery

/-- Blanks around the text do not count. -/
def DateTime.read? (s : String) : Option DateTime := Calendar.readChars? (Text.trimBlanks s.toList)

end FieldQuery
