import FieldQuery.Text.Digits
import FieldQuery.Yaml.Mark

/-!
# YAML scalars

Plain, quoted and block scalars. Each reader takes the text from the scalar's first character on, and
returns the value and the rest.
-/

namespace FieldQuery.Yaml

/-! ## Gaps: spaces and line breaks between words -/

structure Gap where
  /-- Spaces on the line of the last word, last one first. -/
  spaces : List Char
  /-- The first break and the ones after it, last one first, once a line has ended. -/
  breaks : Option (List Char × List Char)

namespace Gap

def none : Gap := ⟨[], .none⟩

def isEmpty (g : Gap) : Bool := g.spaces.isEmpty && g.breaks.isNone

def hasBreak (g : Gap) : Bool := g.breaks.isSome

/-- Spaces count only before the first break. -/
def addSpace (g : Gap) (c : Char) : Gap :=
  if g.hasBreak then g else { g with spaces := c :: g.spaces }

def addBreak (g : Gap) (c : Char) : Gap :=
  match g.breaks with
  | .none => ⟨[], some ([c], [])⟩
  | some (first, later) => { g with breaks := some (first, c :: later) }

/-- What the gap stands for: a single line feed is folded into a space. -/
def text (g : Gap) : List Char :=
  match g.breaks with
  | .none => g.spaces.reverse
  | some (['\n'], []) => [' ']
  | some (['\n'], later) => later.reverse
  | some (first, later) => first ++ later.reverse

end Gap

/-! ## Plain scalars -/

structure Scanned where
  text : String
  rest : List Mark
  /-- The scalar is followed by a line break. -/
  endsLine : Bool

def isFlowMark (c : Char) : Bool := c == ',' || c == '[' || c == ']' || c == '\x7b' || c == '\x7d'

/-- No plain scalar goes on with the character `m`, wherever it stands. -/
def atPlainEnd (inFlow : Bool) (m : Mark) (after : List Mark) : Bool :=
  atAnyDocumentMark (m :: after) || (m.char == ':' && atBlank after) || (inFlow && isFlowMark m.char)

/-- A plain scalar whose lines start at column `indent` at least; `text` is read so far, last first. -/
def plainFrom (inFlow : Bool) (indent : Int) (text : List Char) (gap : Gap) :
    List Mark → Option Scanned
  | [] => some ⟨String.ofList text.reverse, [], gap.hasBreak⟩
  | m :: rest =>
    if isSpace m.char then
      if gap.hasBreak ∧ m.char = '\t' ∧ (m.column : Int) < indent then none
      else plainFrom inFlow indent text (gap.addSpace m.char) rest
    else if isBreak m.char then plainFrom inFlow indent text (gap.addBreak m.char) rest
    else if (!gap.isEmpty && ((!inFlow && (m.column : Int) < indent) || m.char == '#')) ||
        atPlainEnd inFlow m rest then
      some ⟨String.ofList text.reverse, m :: rest, gap.hasBreak⟩
    else if inFlow && m.char == ':' && (rest.head?.any fun n => isFlowMark n.char || n.char == '?')
    then none
    else plainFrom inFlow indent (m.char :: gap.text.reverse ++ text) .none rest

/-! ## Quoted scalars -/

def hexDigit? (c : Char) : Option Nat :=
  if c.isDigit then some (c.toNat - '0'.toNat)
  else if 'a' ≤ c ∧ c ≤ 'f' then some (c.toNat - 'a'.toNat + 10)
  else if 'A' ≤ c ∧ c ≤ 'F' then some (c.toNat - 'A'.toNat + 10)
  else none

/-- The character of a code in hexadecimal digits. -/
def hexChar? (digits : List Mark) : Option Char := do
  let code ← digits.foldlM (fun n m => (hexDigit? m.char).map (16 * n + ·)) 0
  if code.isValidChar then some (Char.ofNat code) else none

/-- The characters that a backslash and one character stand for. -/
def shortEscape? (c : Char) : Option Char :=
  [('0', '\x00'), ('a', '\x07'), ('b', '\x08'), ('t', '\t'), ('\t', '\t'), ('n', '\n'),
    ('v', '\x0b'), ('f', '\x0c'), ('r', '\r'), ('e', '\x1b'), (' ', ' '), ('"', '"'), ('/', '/'),
    ('\\', '\\'), ('N', '\u0085'), ('_', '\u00A0'), ('L', '\u2028'), ('P', '\u2029')].lookup c

/-- A scalar after its opening apostrophe. -/
def singleQuotedFrom (text : List Char) (gap : Gap) : List Mark → Option Scanned
  | [] => none
  | m :: rest =>
    let word := gap.text.reverse ++ text
    if atAnyDocumentMark (m :: rest) then none
    else if isSpace m.char then singleQuotedFrom text (gap.addSpace m.char) rest
    else if isBreak m.char then singleQuotedFrom text (gap.addBreak m.char) rest
    else if m.char = '\'' then
      match rest with
      | n :: rest' =>
        if n.char = '\'' then singleQuotedFrom ('\'' :: word) .none rest'
        else some ⟨String.ofList word.reverse, n :: rest', false⟩
      | [] => some ⟨String.ofList word.reverse, [], false⟩
    else singleQuotedFrom (m.char :: word) .none rest

/-- A scalar after its opening quote. A backslash at the end of a line joins it to the next. -/
def doubleQuotedFrom (text : List Char) (gap : Gap) : List Mark → Option Scanned
  | [] => none
  | m :: rest =>
    let word := gap.text.reverse ++ text
    if atAnyDocumentMark (m :: rest) then none
    else if isSpace m.char then doubleQuotedFrom text (gap.addSpace m.char) rest
    else if isBreak m.char then doubleQuotedFrom text (gap.addBreak m.char) rest
    else if m.char = '"' then some ⟨String.ofList word.reverse, rest, false⟩
    else if m.char = '\\' then
      match rest with
      | [] => none
      | e :: rest =>
        if isBreak e.char then doubleQuotedFrom word ⟨[], some ([], [])⟩ rest
        else if e.char = 'x' then
          match rest with
          | a :: b :: rest => do doubleQuotedFrom ((← hexChar? [a, b]) :: word) .none rest
          | _ => none
        else if e.char = 'u' then
          match rest with
          | a :: b :: c :: d :: rest => do
            doubleQuotedFrom ((← hexChar? [a, b, c, d]) :: word) .none rest
          | _ => none
        else if e.char = 'U' then
          match rest with
          | a :: b :: c :: d :: a' :: b' :: c' :: d' :: rest => do
            doubleQuotedFrom ((← hexChar? [a, b, c, d, a', b', c', d']) :: word) .none rest
          | _ => none
        else do doubleQuotedFrom ((← shortEscape? e.char) :: word) .none rest
    else doubleQuotedFrom (m.char :: word) .none rest

/-! ## Block scalars -/

/-- The empty lines at the front, with the greatest indentation seen; `indent` is 0 until it is
known. -/
def emptyLines (indent greatest : Nat) (breaks : List Char) :
    List Mark → Option (Nat × List Char × List Mark)
  | [] => some (greatest, breaks.reverse, [])
  | m :: rest =>
    let within := indent = 0 ∨ m.column < indent
    if m.char = ' ' ∧ within then emptyLines indent (max greatest (m.column + 1)) breaks rest
    else if m.char = '\t' ∧ within then none
    else if isBreak m.char then emptyLines indent greatest (m.char :: breaks) rest
    else some (greatest, breaks.reverse, m :: rest)

structure BlockText where
  /-- The lines so far, last character first. -/
  text : List Char
  /-- The break that ended the last line. -/
  leadingBreak : List Char
  /-- The empty lines after it. -/
  emptyLines : List Char
  /-- The last line began with a space, so the break after it is not folded. -/
  indented : Bool

namespace BlockText

/-- What stands between the lines read so far and a next one. -/
def joint (b : BlockText) (literal startsBlank : Bool) : List Char :=
  if !literal && b.leadingBreak == ['\n'] && !b.indented && !startsBlank then
    (if b.emptyLines.isEmpty then [' '] else []) ++ b.emptyLines
  else b.leadingBreak ++ b.emptyLines

end BlockText

/-- The lines at column `indent`; `fuel` bounds how many there are, each of a character at least. -/
def blockLines (literal : Bool) (indent : Nat) (fuel : Nat) (b : BlockText) (ms : List Mark) :
    Option (BlockText × List Mark) :=
  match fuel, ms with
  | _, [] => some (b, [])
  | 0, _ => none
  | fuel + 1, m :: others =>
    if m.column ≠ indent then some (b, m :: others)
    else do
      let startsBlank := isSpace m.char
      let line := (m :: others).takeWhile fun m => !isBreak m.char
      let after := (m :: others).dropWhile fun m => !isBreak m.char
      let (_, breaks, rest) ← emptyLines indent 0 [] (after.drop 1)
      let text := (chars line).reverse ++ (b.joint literal startsBlank).reverse ++ b.text
      blockLines literal indent fuel ⟨text, chars (after.take 1), breaks, startsBlank⟩ rest

inductive Chomping where
  | clip
  | strip
  | keep

/-- The marks after the indicator: how the end is treated and how far lines are indented. -/
def blockHeader? (cs : List Mark) : Option (Chomping × Nat × List Mark) :=
  let chomping? (cs : List Mark) : Option (Chomping × List Mark) :=
    match cs with
    | m :: rest =>
      if m.char = '+' then some (.keep, rest) else if m.char = '-' then some (.strip, rest) else none
    | [] => none
  let increment? (cs : List Mark) : Option (Nat × List Mark) :=
    match cs with
    | m :: rest => if m.char.isDigit then some (m.char.toNat - '0'.toNat, rest) else none
    | [] => none
  let header :=
    match chomping? cs, increment? cs with
    | some (chomping, cs), _ =>
      match increment? cs with
      | some (n, cs) => (chomping, some n, cs)
      | none => (chomping, none, cs)
    | none, some (n, cs) =>
      match chomping? cs with
      | some (chomping, cs) => (chomping, some n, cs)
      | none => (.clip, some n, cs)
    | none, none => (.clip, none, cs)
  let (chomping, increment, cs) := header
  if increment = some 0 then none
  else
    let cs := cs.dropWhile fun m => isSpace m.char
    let cs := match cs with
      | m :: _ => if m.char = '#' then cs.dropWhile fun m => !isBreak m.char else cs
      | [] => cs
    if atLineEnd cs then some (chomping, increment.getD 0, cs.drop 1) else none

/-- A block scalar after its indicator, within a node of indentation `parent`. -/
def blockScalar? (literal : Bool) (parent : Int) (cs : List Mark) : Option Scanned := do
  let (chomping, increment, cs) ← blockHeader? cs
  let given := if increment = 0 then 0 else (max parent 0).toNat + increment
  let (greatest, breaks, cs) ← emptyLines given 0 [] cs
  let indent := if given = 0 then max greatest (max (parent + 1) 1).toNat else given
  let (b, rest) ← blockLines literal indent cs.length ⟨[], [], breaks, false⟩ cs
  let ending := match chomping with
    | .strip => []
    | .clip => b.leadingBreak
    | .keep => b.leadingBreak ++ b.emptyLines
  return ⟨String.ofList (b.text.reverse ++ ending), rest, true⟩

end FieldQuery.Yaml
