/-!
# Characters of a YAML text with their places

Indentation matters in YAML, so each character carries the line and column it stands at.
-/

namespace FieldQuery.Yaml

structure Mark where
  char : Char
  line : Nat
  column : Nat
  /-- How many bytes of the line come before this character. -/
  offset : Nat
  deriving DecidableEq, Repr

def isSpace (c : Char) : Bool := c == ' ' || c == '\t'

def isBreak (c : Char) : Bool := c == '\n' || c == '\u2028' || c == '\u2029'

/-- The characters a text may hold. -/
def isAllowed (c : Char) : Bool :=
  c == '\t' || c == '\n' || c == '\r' || (' ' ≤ c && c ≤ '~') || c == '\u0085' ||
    ('\u00A0' ≤ c && c.toNat ≤ 0xFFFD) || 0x10000 ≤ c.toNat

/-- All line breaks that mean the same are line feeds. -/
def normalised : List Char → List Char
  | [] => []
  | '\r' :: '\n' :: rest => '\n' :: normalised rest
  | c :: rest => (if c = '\r' ∨ c = '\u0085' then '\n' else c) :: normalised rest

def marksFrom (line column offset : Nat) : List Char → List Mark
  | [] => []
  | c :: rest =>
    ⟨c, line, column, offset⟩ ::
      if isBreak c then marksFrom (line + 1) 0 0 rest
      else marksFrom line (column + 1) (offset + c.utf8Size) rest

/-- The characters of a text, unless one is not allowed. -/
def marks? (text : String) : Option (List Mark) :=
  let cs := text.toList
  if cs.all isAllowed then some (marksFrom 0 0 0 (normalised cs)) else none

/-! ## What stands at the front -/

/-- The text ends here, or a space or line break follows. -/
def atBlank : List Mark → Bool
  | [] => true
  | m :: _ => isSpace m.char || isBreak m.char

/-- The text or the line ends here. -/
def atLineEnd : List Mark → Bool
  | [] => true
  | m :: _ => isBreak m.char

/-- The text goes on with this character. -/
def startsWith (c : Char) (ms : List Mark) : Bool := ms.head?.any (·.char == c)

def chars (ms : List Mark) : List Char := ms.map (·.char)

/-- Three times the character at the start of a line, as between documents. -/
def atDocumentMark (c : Char) : List Mark → Bool
  | a :: b :: d :: rest =>
    a.column == 0 && a.char == c && b.char == c && d.char == c && atBlank rest
  | _ => false

def atAnyDocumentMark (ms : List Mark) : Bool := atDocumentMark '-' ms || atDocumentMark '.' ms

end FieldQuery.Yaml
