import FieldQuery.Yaml.Scalar

/-!
# YAML names and tags

Anchors have names, and the tag of a node is a URI that a handle may abbreviate. Each reader takes
the text from its first character on, and returns what it read and the rest.
-/

namespace FieldQuery.Yaml

/-! ## Names -/

def isNameChar (c : Char) : Bool := c.isAlphanum || c == '_' || c == '-'

/-- The name of an anchor. -/
def name? (ms : List Mark) : Option (String × List Mark) :=
  let name := ms.takeWhile fun m => isNameChar m.char
  let rest := ms.dropWhile fun m => isNameChar m.char
  let ends := atBlank rest || rest.head?.any fun m => ("?:,]\x7d%@`" : String).toList.contains m.char
  if name.isEmpty || !ends then none else some (String.ofList (chars name), rest)

/-! ## URIs

A character may be written as the octets of its UTF-8 form, each a percent sign and two hexadecimal
digits.
-/

def isUriChar (c : Char) : Bool :=
  isNameChar c || (";/?:@&=+$.!~*'()%" : String).toList.contains c

/-- In angle brackets and in directives a tag may hold a few more characters. -/
def isVerbatimChar (c : Char) : Bool := isUriChar c || c == ',' || c == '[' || c == ']'

/-- A character of which some octets have been read. -/
structure PartialChar where
  code : Nat
  octets : Nat
  left : Nat

/-- The character that an octet begins, by its highest bits. -/
def PartialChar.begin? (octet : Nat) : Option PartialChar :=
  if octet < 0x80 then some ⟨octet, 1, 0⟩
  else if octet < 0xC0 then none
  else if octet < 0xE0 then some ⟨octet - 0xC0, 2, 1⟩
  else if octet < 0xF0 then some ⟨octet - 0xE0, 3, 2⟩
  else if octet < 0xF8 then some ⟨octet - 0xF0, 4, 3⟩
  else none

/-- A later octet adds six bits. -/
def PartialChar.add? (p : PartialChar) (octet : Nat) : Option PartialChar :=
  if 0x80 ≤ octet ∧ octet < 0xC0 then some ⟨64 * p.code + (octet - 0x80), p.octets, p.left - 1⟩
  else none

/-- Octets that are the UTF-8 form of no character stand for the replacement character. -/
def PartialChar.char (p : PartialChar) : Char :=
  let c := Char.ofNat p.code
  if p.code.isValidChar ∧ c.utf8Size = p.octets then c else '\uFFFD'

/-- The characters of a URI, `open?` of which is incomplete. -/
def unescape? (open? : Option PartialChar) : List Char → Option (List Char)
  | [] => if open?.isSome then none else some []
  | '%' :: a :: b :: rest => do
    let octet := 16 * (← hexDigit? a) + (← hexDigit? b)
    let p ← match open? with
      | some p => p.add? octet
      | none => PartialChar.begin? octet
    if p.left = 0 then (unescape? none rest).map (p.char :: ·) else unescape? (some p) rest
  | c :: rest => if c = '%' ∨ open?.isSome then none else (unescape? none rest).map (c :: ·)

/-- A URI of these characters. It ends at a null character, whatever follows. -/
def uri? (isAllowed : Char → Bool) (ms : List Mark) : Option (String × List Mark) := do
  let written := ms.takeWhile fun m => isAllowed m.char
  let cs ← unescape? none (chars written)
  if written.isEmpty then none
  else return (String.ofList (cs.takeWhile (· ≠ '\x00')), ms.drop written.length)

/-! ## Tags -/

/-- An exclamation mark, or a name between two of them. -/
def handle? (ms : List Mark) : Option (String × List Mark) :=
  if startsWith '!' ms then
    let name := (ms.drop 1).takeWhile fun m => isNameChar m.char
    let rest := ms.drop (1 + name.length)
    if startsWith '!' rest then some ("!" ++ String.ofList (chars name) ++ "!", rest.drop 1)
    else if name.isEmpty then some ("!", rest)
    else none
  else none

/-- A tag, as a handle and a suffix. One in angle brackets has no handle, nor has a mark alone. -/
def tag? (inFlow : Bool) (ms : List Mark) : Option (String × String × List Mark) := do
  let body := ms.drop 1
  let local? : Option (String × String × List Mark) :=
    if body.head?.any fun m => isUriChar m.char then
      (uri? isUriChar body).map fun (suffix, rest) =>
        if suffix.isEmpty then ("", "!", rest) else ("!", suffix, rest)
    else some ("", "!", body)
  let (handle, suffix, rest) ←
    if startsWith '<' body then do
      let (uri, rest) ← uri? isVerbatimChar (body.drop 1)
      if startsWith '>' rest then some ("", uri, rest.drop 1) else none
    else
      match handle? ms with
      | some (handle, rest) =>
        if handle = "!" then local?
        else (uri? isUriChar rest).map fun (suffix, rest) => (handle, suffix, rest)
      | none => local?
  if atBlank rest || (inFlow && startsWith ',' rest) then some (handle, suffix, rest) else none

/-! ## Directives -/

def skipSpaces (ms : List Mark) : List Mark := ms.dropWhile fun m => isSpace m.char

/-- A number of a version, of at most nine digits. -/
def versionNumber? (ms : List Mark) : Option (Nat × List Mark) :=
  let digits := (chars ms).takeWhile Char.isDigit
  if digits.isEmpty || 9 < digits.length then none
  else some (Text.digitsValue digits, ms.drop digits.length)

/-- What follows a version. Versions 1.1 and 1.2 are known. -/
def version? (ms : List Mark) : Option (List Mark) := do
  let (major, rest) ← versionNumber? ms
  if startsWith '.' rest then
    let (minor, rest) ← versionNumber? (rest.drop 1)
    if major = 1 ∧ (minor = 1 ∨ minor = 2) then some rest else none
  else none

/-- A handle and the start of the tags it abbreviates. -/
def tagDirective? (ms : List Mark) : Option (String × String × List Mark) := do
  let (handle, rest) ← handle? ms
  if rest.head?.any fun m => isSpace m.char then
    let (start, rest) ← uri? isVerbatimChar (skipSpaces rest)
    if atBlank rest then some (handle, start, rest) else none
  else none

/-- There is nothing more on the line but a comment. -/
def atComment (ms : List Mark) : Bool :=
  atLineEnd (skipSpaces ms) || startsWith '#' (skipSpaces ms)

end FieldQuery.Yaml
