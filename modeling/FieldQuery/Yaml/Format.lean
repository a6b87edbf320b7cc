import FieldQuery.Format
import FieldQuery.Text.Digits
import FieldQuery.Yaml.Node

/-!
# Configuration in YAML

What configuration reads from YAML documents. Any scalar can be a text, and what is left out can be
an empty structure or list.
-/

namespace FieldQuery.Yaml

namespace Node

/-- A scalar that may be a number or a truth value: a plain one, or a block with the tag for it. -/
def typed? (tag : String) : Node → Option String
  | .scalar text .plain _ => some text
  | .scalar text .literal (some given) =>
    if given = "tag:yaml.org,2002:" ++ tag then some text else none
  | _ => none

def isAbsent : Node → Bool
  | .scalar "" .plain _ => true
  | _ => false

def digitOf? (radix : Nat) (c : Char) : Option Nat :=
  let digit :=
    if c.isDigit then some (c.toNat - '0'.toNat)
    else if 'a' ≤ c ∧ c ≤ 'z' then some (c.toNat - 'a'.toNat + 10)
    else if 'A' ≤ c ∧ c ≤ 'Z' then some (c.toNat - 'A'.toNat + 10)
    else none
  digit.filter (· < radix)

/-- Digits of a radix, for a number of at most 64 bits. -/
def radixNat? (radix : Nat) (digits : List Char) : Option Nat :=
  if digits = [] then none
  else (digits.foldlM (fun n c => (digitOf? radix c).map (radix * n + ·)) 0).filter (· < UInt64.size)

/-- A number in decimal, or after `0x`, `0o` or `0b`; a decimal one has no zero in front. -/
def natural? (text : String) : Option Nat :=
  let cs := match text.toList with
    | '+' :: rest => rest
    | cs => cs
  match cs with
  | '0' :: 'x' :: rest => radixNat? 16 rest
  | '0' :: 'o' :: rest => radixNat? 8 rest
  | '0' :: 'b' :: rest => radixNat? 2 rest
  | '0' :: _ :: _ => none
  | cs => radixNat? 10 cs

def boolean? (text : String) : Option Bool :=
  if ["true", "True", "TRUE"].contains text then some true
  else if ["false", "False", "FALSE"].contains text then some false
  else none

end Node

namespace Document

/-- What is read, without the aliases that it is read through. -/
def fields? (d : Document) (node : Node) : Option (List (String × Node)) :=
  match d.resolve node with
  | .mapping entries => entries.mapM fun (key, value) =>
    match d.resolve key with
    | .scalar name _ _ => some (name, value)
    | _ => none
  | node => if node.isAbsent then some [] else none

def list? (d : Document) (node : Node) : Option (List Node) :=
  match d.resolve node with
  | .sequence items => some items
  | node => if node.isAbsent then some [] else none

/-- A structure is a mapping, never a sequence. -/
def format (d : Document) : Format Node where
  fields? := d.fields?
  positional? _ := none
  list? := d.list?
  natural? node := do Node.natural? (← (d.resolve node).typed? "int")
  boolean? node := do Node.boolean? (← (d.resolve node).typed? "bool")
  text? node :=
    match d.resolve node with
    | .scalar text _ _ => some text
    | _ => none

/-! ## How often aliases are followed -/

def aliasesIn : Node → Nat
  | .alias _ => 1
  | _ => 0

/-- For a structure: its own alias, those of its keys, and those of the members that are known. -/
def aliasesInFields (d : Document) (known : List String) (inMember : Node → Nat) (node : Node) :
    Nat :=
  aliasesIn node +
    match d.resolve node with
    | .mapping entries =>
      entries.foldl (fun total (key, value) =>
        let isKnown := match d.resolve key with
          | .scalar name _ _ => known.contains name
          | _ => false
        total + aliasesIn key + if isKnown then inMember value else 0) 0
    | _ => 0

/-- For a list: its own alias, and those of its items. -/
def aliasesInItems (d : Document) (inItem : Node → Nat) (node : Node) : Nat :=
  aliasesIn node +
    match d.resolve node with
    | .sequence items => items.foldl (fun total item => total + inItem item) 0
    | _ => 0

/-- A document may follow a hundred aliases for each unit of its length. -/
def allows (d : Document) (aliases : Nat) : Bool := aliases ≤ 100 * d.root.size

end Document

end FieldQuery.Yaml
