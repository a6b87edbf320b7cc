import FieldQuery.Yaml.Tag

/-!
# YAML tokens

A text is cut into tokens from front to back. Indentation opens and closes blocks, and what turns out
to be a key when its colon comes gets a key token in front of it afterwards.
-/

namespace FieldQuery.Yaml

inductive ScalarStyle where
  | plain
  | literal
  | other
  deriving DecidableEq, Repr

inductive Token where
  | versionDirective
  | tagDirective (handle start : String)
  | documentStart
  | documentEnd
  | blockSequence
  | blockMapping
  | blockEnd
  | flowSequence
  | flowSequenceEnd
  | flowMapping
  | flowMappingEnd
  | blockEntry
  | flowEntry
  | key
  | value
  | alias (name : String)
  | anchor (name : String)
  | tag (handle suffix : String)
  | scalar (text : String) (style : ScalarStyle)
  deriving DecidableEq, Repr

/-- Something that is a key if a colon follows. -/
structure PossibleKey where
  mark : Mark
  /-- How many tokens come before it. -/
  position : Nat
  /-- Its line must be part of a mapping. -/
  isRequired : Bool

structure Scan where
  rest : List Mark
  /-- The tokens so far, the last one first. -/
  tokens : List Token
  /-- How many tokens there are. -/
  count : Nat
  /-- The column of the innermost block, and of those around it; -1 outside of all. -/
  indent : Int
  outer : List Int
  /-- A key may begin here. -/
  keyAllowed : Bool
  /-- The possible key of each flow collection around, innermost first, and of the block. -/
  keys : List (Option PossibleKey)

namespace Scan

def start (marks : List Mark) : Scan := ⟨marks, [], 0, -1, [], true, [none]⟩

def inFlow (s : Scan) : Bool := 1 < s.keys.length

def emit (s : Scan) (t : Token) : Scan :=
  { s with tokens := t :: s.tokens, count := s.count + 1 }

/-- Puts a token where `position` tokens come before it. -/
def emitAt (s : Scan) (position : Nat) (t : Token) : Scan :=
  let later := s.count - position
  { s with
    tokens := s.tokens.take later ++ t :: s.tokens.drop later
    count := s.count + 1 }

def advance (s : Scan) (n : Nat) : Scan := { s with rest := s.rest.drop n }

/-! ## Possible keys -/

def currentKey (s : Scan) : Option PossibleKey := s.keys.head?.join

def setKey (s : Scan) (key : Option PossibleKey) : Scan := { s with keys := key :: s.keys.drop 1 }

/-- Gives up the possible key; one that is required may not be given up. -/
def dropKey (s : Scan) : Option Scan :=
  match s.currentKey with
  | some key => if key.isRequired then none else some (s.setKey none)
  | none => some s

/-- A key may begin at this mark. -/
def saveKey (s : Scan) (m : Mark) : Option Scan :=
  if s.keyAllowed then do
    let s ← s.dropKey
    let isRequired := !s.inFlow && s.indent == (m.column : Int)
    return s.setKey (some ⟨m, s.count, isRequired⟩)
  else some s

/-- Keys end on their line, and within 1024 bytes. -/
def dropStaleKeys (s : Scan) (m : Mark) : Option Scan := do
  let keys ← s.keys.mapM fun key =>
    match key with
    | none => some none
    | some key =>
      if key.mark.line < m.line ∨ key.mark.offset + 1024 < m.offset then
        if key.isRequired then none else some none
      else some (some key)
  return { s with keys := keys }

/-! ## Indentation -/

/-- Opens a block at a deeper column, its token put at a position. -/
def roll (s : Scan) (column : Nat) (position : Nat) (t : Token) : Scan :=
  if !s.inFlow && s.indent < (column : Int) then
    { s.emitAt position t with indent := column, outer := s.indent :: s.outer }
  else s

/-- The blocks that are left when a line begins at this column. -/
def closeBlocks (column : Int) (indent : Int) : List Int → (closed : Nat) → Int × List Int × Nat
  | [], closed => (indent, [], closed)
  | around :: outer, closed =>
    if column < indent then closeBlocks column around outer (closed + 1)
    else (indent, around :: outer, closed)

def unroll (s : Scan) (column : Int) : Scan :=
  if s.inFlow then s
  else
    let (indent, outer, closed) := closeBlocks column s.indent s.outer 0
    { s with
      indent := indent
      outer := outer
      tokens := List.replicate closed .blockEnd ++ s.tokens
      count := s.count + closed }

/-! ## Blanks and comments -/

/-- Skips to the next token, and tells whether a key may begin there. A tab cannot indent, and a line
may start with a byte order mark. -/
def skipFrom (inFlow inComment keyAllowed : Bool) : List Mark → List Mark × Bool
  | [] => ([], keyAllowed)
  | m :: rest =>
    if isBreak m.char then skipFrom inFlow false (keyAllowed || !inFlow) rest
    else if inComment then skipFrom inFlow true keyAllowed rest
    else if m.char = ' ' ∨ (m.char = '\t' ∧ (inFlow || !keyAllowed)) then
      skipFrom inFlow false keyAllowed rest
    else if m.char = '\uFEFF' ∧ m.column = 0 then skipFrom inFlow false keyAllowed rest
    else if m.char = '#' then skipFrom inFlow true keyAllowed rest
    else (m :: rest, keyAllowed)

def skip (s : Scan) : Scan :=
  let (rest, keyAllowed) := skipFrom s.inFlow false s.keyAllowed s.rest
  { s with rest := rest, keyAllowed := keyAllowed }

/-- The directive on a line. -/
def directive? (line : List Mark) : Option Token :=
  let name := (line.drop 1).takeWhile fun m => isNameChar m.char
  let rest := line.drop (1 + name.length)
  if !atBlank rest then none
  else if String.ofList (chars name) = "YAML" then do
    let rest ← version? (skipSpaces rest)
    if atComment rest then some .versionDirective else none
  else if String.ofList (chars name) = "TAG" then do
    let (handle, start, rest) ← tagDirective? (skipSpaces rest)
    if atComment rest then some (.tagDirective handle start) else none
  else none

/-! ## Tokens -/

def withScalar (s : Scan) (scanned : Option Scanned) (style : ScalarStyle) : Option Scan :=
  scanned.map fun sc =>
    { s.emit (.scalar sc.text style) with
      rest := sc.rest
      keyAllowed := s.keyAllowed || sc.endsLine }

/-- A scalar that may be a key. -/
def scalarToken (s : Scan) (m : Mark) (scanned : Option Scanned) (style : ScalarStyle) :
    Option Scan := do
  let s ← s.saveKey m
  { s with keyAllowed := false }.withScalar scanned style

def plainToken (s : Scan) (m : Mark) (here : List Mark) : Option Scan :=
  s.scalarToken m (plainFrom s.inFlow (s.indent + 1) [] .none here) .plain

/-- A block scalar is no key, and its end is the end of a line. -/
def blockToken (s : Scan) (literal : Bool) (style : ScalarStyle) (after : List Mark) :
    Option Scan := do
  let s ← s.dropKey
  { s with keyAllowed := true }.withScalar (blockScalar? literal s.indent after) style

/-- A token that a name makes. -/
def namedToken (s : Scan) (m : Mark) (after : List Mark) (token : String → Token) :
    Option Scan := do
  let s ← s.saveKey m
  let (name, rest) ← name? after
  return { s.emit (token name) with rest := rest, keyAllowed := false }

/-- A key in front of a colon, or a colon on its own. -/
def valueToken (s : Scan) (m : Mark) : Option Scan :=
  match s.currentKey with
  | some key =>
    let s := (s.emitAt key.position .key).roll key.mark.column key.position .blockMapping
    some (({ s.setKey none with keyAllowed := false }.emit .value).advance 1)
  | none =>
    if s.inFlow then some (({ s with keyAllowed := false }.emit .value).advance 1)
    else if s.keyAllowed then
      let s := s.roll m.column s.count .blockMapping
      some (({ s with keyAllowed := true }.emit .value).advance 1)
    else none

/-- An entry or key that an indicator announces, in a block if not in flow. -/
def announced (s : Scan) (m : Mark) (block entry : Token) (keyAllowed : Bool) : Option Scan := do
  if s.inFlow || s.keyAllowed then
    let s ← (s.roll m.column s.count block).dropKey
    return ({ s with keyAllowed := keyAllowed }.emit entry).advance 1
  else none

def openFlow (s : Scan) (m : Mark) (t : Token) : Option Scan := do
  let s ← s.saveKey m
  return ({ s with keys := none :: s.keys, keyAllowed := true }.emit t).advance 1

def closeFlow (s : Scan) (t : Token) : Option Scan := do
  let s ← s.dropKey
  let keys := if s.inFlow then s.keys.drop 1 else s.keys
  return ({ s with keys := keys, keyAllowed := false }.emit t).advance 1

/-- A token at the start of a line that belongs to no block. -/
def documentToken (s : Scan) (t : Token) (length : Nat) : Option Scan := do
  let s ← (s.unroll (-1)).dropKey
  return ({ s with keyAllowed := false }.emit t).advance length

/-- The next token, whose first character is `m`. -/
def next (s : Scan) (m : Mark) (after : List Mark) : Option Scan :=
  let here := m :: after
  if m.column = 0 ∧ m.char = '%' then do
    let line := here.takeWhile fun m => !isBreak m.char
    s.documentToken (← directive? line) (line.length + 1)
  else if atDocumentMark '-' here then s.documentToken .documentStart 3
  else if atDocumentMark '.' here then s.documentToken .documentEnd 3
  else if m.char = '[' then s.openFlow m .flowSequence
  else if m.char = '\x7b' then s.openFlow m .flowMapping
  else if m.char = ']' then s.closeFlow .flowSequenceEnd
  else if m.char = '\x7d' then s.closeFlow .flowMappingEnd
  else if m.char = ',' then do
    let s ← s.dropKey
    return ({ s with keyAllowed := true }.emit .flowEntry).advance 1
  else if m.char = '-' ∧ atBlank after then s.announced m .blockSequence .blockEntry true
  else if m.char = '?' ∧ (s.inFlow || atBlank after) then
    s.announced m .blockMapping .key !s.inFlow
  else if m.char = ':' ∧ (s.inFlow || atBlank after) then s.valueToken m
  else if m.char = '*' then s.namedToken m after .alias
  else if m.char = '&' then s.namedToken m after .anchor
  else if m.char = '!' then do
    let s ← s.saveKey m
    let (handle, suffix, rest) ← tag? s.inFlow here
    return { s.emit (.tag handle suffix) with rest := rest, keyAllowed := false }
  else if m.char = '|' ∧ !s.inFlow then s.blockToken true .literal after
  else if m.char = '>' ∧ !s.inFlow then s.blockToken false .other after
  else if m.char = '\'' then s.scalarToken m (singleQuotedFrom [] .none after) .other
  else if m.char = '"' then s.scalarToken m (doubleQuotedFrom [] .none after) .other
  else if m.char = '-' then
    if after.head?.any fun n => isSpace n.char then none else s.plainToken m here
  else if (m.char = '?' ∨ m.char = ':') ∧ !s.inFlow then s.plainToken m here
  else if isSpace m.char || ("?:,[]\x7b\x7d#&*!|>'\"%@`" : String).toList.contains m.char then none
  else s.plainToken m here

/-- All blocks end with the text, and no key may be left without its colon. -/
def finish (s : Scan) : Option (List Token) :=
  (s.unroll (-1)).dropKey.map (·.tokens.reverse)

/-- The tokens up to the end; `fuel` bounds how many are read, and each takes a character. -/
def run (fuel : Nat) (s : Scan) : Option (List Token) :=
  match fuel with
  | 0 => none
  | fuel + 1 =>
    let s := s.skip
    match s.rest with
    | [] => s.finish
    | m :: after => do
      let s ← s.dropStaleKeys m
      run fuel (← (s.unroll m.column).next m after)

end Scan

/-- The tokens of a text, unless it is malformed. -/
def tokens? (text : String) : Option (List Token) := do
  let marks ← marks? text
  (Scan.start marks).run (marks.length + 1)

end FieldQuery.Yaml
