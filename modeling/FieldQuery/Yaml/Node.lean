import FieldQuery.Yaml.Token

/-!
# YAML documents

A document is a tree of scalars, sequences, mappings and aliases. It is read from the tokens of its
text. Aliases refer by number to nodes that have anchors, and are looked up when the whole document
has been read.
-/

namespace FieldQuery.Yaml

inductive Node where
  | scalar (text : String) (style : ScalarStyle) (tag : Option String)
  | sequence (items : List Node)
  | mapping (entries : List (Node × Node))
  | alias (number : Nat)
  deriving Repr

namespace Node

/-- What stands where nothing is written. -/
def absent (tag : Option String) : Node := .scalar "" .plain tag

mutual

/-- The length of a node written out: a collection has a start and an end. -/
def size : Node → Nat
  | .scalar _ _ _ => 1
  | .alias _ => 1
  | .sequence items => 2 + sizes items
  | .mapping entries => 2 + entrySizes entries

def sizes : List Node → Nat
  | [] => 0
  | item :: rest => item.size + sizes rest

def entrySizes : List (Node × Node) → Nat
  | [] => 0
  | (key, value) :: rest => key.size + value.size + entrySizes rest

end

/-! ## Anchors -/

/-- Anchors in the order in which their nodes begin, the last one first. -/
structure Anchors where
  /-- How many different names there are. -/
  names : Nat
  list : List (String × Nat)
  /-- The nodes by the numbers of their anchors. -/
  nodes : List (Nat × Node)

namespace Anchors

def empty : Anchors := ⟨0, [], []⟩

/-- The number of the last anchor of a name. -/
def number? (a : Anchors) (name : String) : Option Nat := a.list.lookup name

/-- A node with an anchor begins. The anchor's number is how many names there were before it, so a
repeated name shares its new number with the next new name. -/
def begin (a : Anchors) (name : String) : Anchors where
  names := if (a.number? name).isSome then a.names else a.names + 1
  list := (name, a.names) :: a.list
  nodes := (a.names, absent none) :: a.nodes

/-- The node ends that began when there were `earlier` anchors. -/
def complete (a : Anchors) (earlier : Nat) (node : Node) : Anchors :=
  let place := a.nodes.length - 1 - earlier
  { a with nodes := a.nodes.modify place fun entry => (entry.1, node) }

end Anchors

/-- Tokens still to be read, and the anchors so far. -/
structure Reading where
  tokens : List Token
  anchors : Anchors

def Reading.begin (r : Reading) (anchor : Option String) : Reading :=
  match anchor with
  | some name => { r with anchors := r.anchors.begin name }
  | none => r

def Reading.complete (r : Reading) (anchor : Option String) (earlier : Nat) (node : Node) :
    Reading :=
  if anchor.isSome then { r with anchors := r.anchors.complete earlier node } else r

/-- The starts of the full names that tag handles stand for. -/
abbrev TagHandles := List (String × String)

def defaultHandles : TagHandles := [("", ""), ("!", "!"), ("!!", "tag:yaml.org,2002:")]

structure Properties where
  anchor : Option String
  tag : Option String
  rest : Reading

/-- An anchor and a tag, in any order, each at most once. -/
def properties? (handles : TagHandles) (r : Reading) : Option Properties :=
  let tag? (handle suffix : String) : Option String :=
    (handles.lookup handle).map (· ++ suffix)
  match r.tokens with
  | .anchor a :: .tag h s :: rest | .tag h s :: .anchor a :: rest =>
    (tag? h s).map fun t => ⟨some a, some t, { r with tokens := rest }⟩
  | .anchor a :: rest => some ⟨some a, none, { r with tokens := rest }⟩
  | .tag h s :: rest => (tag? h s).map fun t => ⟨none, some t, { r with tokens := rest }⟩
  | _ => some ⟨none, none, r⟩

/-- Where a node stands decides which collections it may be. -/
inductive Place where
  | block
  /-- In a block mapping a sequence may stand at the column of its key. -/
  | blockMapping
  | flow
  deriving DecidableEq

/-- Something else stands where a node may be left out. -/
def startsWithAny (tokens : List Token) (stops : List Token) : Bool :=
  match tokens with
  | t :: _ => stops.contains t
  | [] => true

/-- What is left after one token. -/
def Reading.skip (r : Reading) : Reading := { r with tokens := r.tokens.drop 1 }

mutual

/-- A node; `fuel` bounds how many tokens are read. -/
def read (handles : TagHandles) (fuel : Nat) (place : Place) (r : Reading) :
    Option (Node × Reading) :=
  match fuel with
  | 0 => none
  | fuel + 1 =>
    match r.tokens with
    | .alias name :: _ => (r.anchors.number? name).map (.alias ·, r.skip)
    | _ => do
      let p ← properties? handles r
      let p := { p with rest := p.rest.begin p.anchor }
      let (node, rest) ← readContent handles fuel place p
      return (node, rest.complete p.anchor r.anchors.nodes.length node)

/-- What follows the properties of a node. -/
def readContent (handles : TagHandles) (fuel : Nat) (place : Place) (p : Properties) :
    Option (Node × Reading) :=
  match fuel with
  | 0 => none
  | fuel + 1 =>
    let r := p.rest
    match r.tokens with
    | .blockEntry :: _ =>
      if place = .blockMapping then readEntries handles fuel r
      else if p.anchor.isSome || p.tag.isSome then some (absent p.tag, r)
      else none
    | .scalar text style :: _ => some (.scalar text style p.tag, r.skip)
    | .flowSequence :: _ => readFlowItems handles fuel [] r.skip
    | .flowMapping :: _ => readFlowPairs handles fuel [] r.skip
    | .blockSequence :: _ => if place = .flow then none else readItems handles fuel [] r.skip
    | .blockMapping :: _ => if place = .flow then none else readPairs handles fuel [] r.skip
    | _ => if p.anchor.isSome || p.tag.isSome then some (absent p.tag, r) else none

/-- A node, or nothing if one of these tokens stands here. -/
def readUnless (handles : TagHandles) (fuel : Nat) (place : Place) (stops : List Token)
    (r : Reading) : Option (Node × Reading) :=
  match fuel with
  | 0 => none
  | fuel + 1 =>
    if startsWithAny r.tokens stops then some (absent none, r) else read handles fuel place r

/-- The items of a block sequence, up to its end. -/
def readItems (handles : TagHandles) (fuel : Nat) (items : List Node) (r : Reading) :
    Option (Node × Reading) :=
  match fuel with
  | 0 => none
  | fuel + 1 =>
    match r.tokens with
    | .blockEntry :: _ => do
      let (item, rest) ← readUnless handles fuel .block [.blockEntry, .blockEnd] r.skip
      readItems handles fuel (items ++ [item]) rest
    | .blockEnd :: _ => some (.sequence items, r.skip)
    | _ => none

/-- The items of a sequence that stands at the column of its key. -/
def readEntries (handles : TagHandles) (fuel : Nat) (r : Reading) : Option (Node × Reading) :=
  match fuel with
  | 0 => none
  | fuel + 1 =>
    match r.tokens with
    | .blockEntry :: _ => do
      let (item, rest) ←
        readUnless handles fuel .block [.blockEntry, .key, .value, .blockEnd] r.skip
      match ← readEntries handles fuel rest with
      | (.sequence items, rest) => return (.sequence (item :: items), rest)
      | _ => none
    | _ => some (.sequence [], r)

/-- The entries of a block mapping, up to its end. -/
def readPairs (handles : TagHandles) (fuel : Nat) (entries : List (Node × Node)) (r : Reading) :
    Option (Node × Reading) :=
  match fuel with
  | 0 => none
  | fuel + 1 =>
    let stops : List Token := [.key, .value, .blockEnd]
    match r.tokens with
    | .key :: _ => do
      let (key, rest) ← readUnless handles fuel .blockMapping stops r.skip
      let (value, rest) ←
        match rest.tokens with
        | .value :: _ => readUnless handles fuel .blockMapping stops rest.skip
        | _ => some (absent none, rest)
      readPairs handles fuel (entries ++ [(key, value)]) rest
    | .blockEnd :: _ => some (.mapping entries, r.skip)
    | _ => none

/-- The value of a flow entry, if there is a colon. -/
def readFlowValue (handles : TagHandles) (fuel : Nat) (stop : Token) (r : Reading) :
    Option (Node × Reading) :=
  match fuel with
  | 0 => none
  | fuel + 1 =>
    match r.tokens with
    | .value :: _ => readUnless handles fuel .flow [.flowEntry, stop] r.skip
    | _ => some (absent none, r)

/-- An item of a flow sequence; one with a key is a mapping of its own. Where the key is left out,
the token that stands there is passed over. -/
def readFlowItem (handles : TagHandles) (fuel : Nat) (r : Reading) : Option (Node × Reading) :=
  match fuel with
  | 0 => none
  | fuel + 1 =>
    match r.tokens with
    | .key :: rest => do
      let (key, rest) ←
        if startsWithAny rest [.value, .flowEntry, .flowSequenceEnd] then
          some (absent none, r.skip.skip)
        else read handles fuel .flow r.skip
      let (value, rest) ← readFlowValue handles fuel .flowSequenceEnd rest
      return (.mapping [(key, value)], rest)
    | _ => read handles fuel .flow r

/-- An entry of a flow mapping; one without a colon has no value. -/
def readFlowEntry (handles : TagHandles) (fuel : Nat) (r : Reading) :
    Option ((Node × Node) × Reading) :=
  match fuel with
  | 0 => none
  | fuel + 1 =>
    match r.tokens with
    | .key :: _ => do
      let (key, rest) ← readUnless handles fuel .flow [.value, .flowEntry, .flowMappingEnd] r.skip
      let (value, rest) ← readFlowValue handles fuel .flowMappingEnd rest
      return ((key, value), rest)
    | _ => do
      let (key, rest) ← read handles fuel .flow r
      return ((key, absent none), rest)

/-- The items of a flow sequence, up to its end. -/
def readFlowItems (handles : TagHandles) (fuel : Nat) (items : List Node) (r : Reading) :
    Option (Node × Reading) :=
  match fuel with
  | 0 => none
  | fuel + 1 =>
    match r.tokens with
    | .flowSequenceEnd :: _ => some (.sequence items, r.skip)
    | _ => do
      let (item, rest) ← readFlowItem handles fuel r
      match rest.tokens with
      | .flowEntry :: _ => readFlowItems handles fuel (items ++ [item]) rest.skip
      | .flowSequenceEnd :: _ => some (.sequence (items ++ [item]), rest.skip)
      | _ => none

/-- The entries of a flow mapping, up to its end. -/
def readFlowPairs (handles : TagHandles) (fuel : Nat) (entries : List (Node × Node)) (r : Reading) :
    Option (Node × Reading) :=
  match fuel with
  | 0 => none
  | fuel + 1 =>
    match r.tokens with
    | .flowMappingEnd :: _ => some (.mapping entries, r.skip)
    | _ => do
      let (entry, rest) ← readFlowEntry handles fuel r
      match rest.tokens with
      | .flowEntry :: _ => readFlowPairs handles fuel (entries ++ [entry]) rest.skip
      | .flowMappingEnd :: _ => some (.mapping (entries ++ [entry]), rest.skip)
      | _ => none

end

/-! ## Documents -/

/-- Whether there was a version directive, and the handles that directives declared. -/
structure Directives where
  hasVersion : Bool
  handles : TagHandles

/-- Directives stand in front of a document, and none of them says the same thing twice. -/
def directives? (d : Directives) : List Token → Option (Directives × List Token)
  | .versionDirective :: rest =>
    if d.hasVersion then none else directives? { d with hasVersion := true } rest
  | .tagDirective handle start :: rest =>
    if (d.handles.lookup handle).isSome then none
    else directives? { d with handles := (handle, start) :: d.handles } rest
  | tokens => some (d, tokens)

def isDocumentToken : Token → Bool
  | .versionDirective | .tagDirective _ _ | .documentStart | .documentEnd => true
  | _ => false

/-- After a document there may be nothing but marks of its end. -/
def isEnd (tokens : List Token) : Bool := tokens.all (· = .documentEnd)

end Node

/-- A node, and the nodes that aliases in it stand for. -/
structure Document where
  root : Node
  anchored : List (Nat × Node)
  deriving Repr

namespace Document

open Node

/-- The node that is meant, which is never an alias. -/
def resolve (d : Document) : Node → Node
  | .alias number => (d.anchored.lookup number).getD (absent none)
  | node => node

/-- The only document of a token list; `none` inside if there is no document at all. -/
def ofTokens? (tokens : List Token) : Option (Option Document) :=
  let fuel := 4 * tokens.length + 4
  let document (handles : TagHandles) (tokens : List Token) : Option (Option Document) := do
    let (node, rest) ← read handles fuel .block ⟨tokens, .empty⟩
    if isEnd rest.tokens then some (some ⟨node, rest.anchors.nodes⟩) else none
  match tokens with
  | [] => some none
  | t :: _ =>
    if isDocumentToken t && t ≠ .documentEnd then
      match directives? ⟨false, []⟩ tokens with
      | some (d, .documentStart :: rest) =>
        if rest.head?.all isDocumentToken then
          if isEnd rest then some (some ⟨absent none, []⟩) else none
        else document (d.handles ++ defaultHandles) rest
      | _ => none
    else document defaultHandles tokens

/-- The document of a text; `none` inside if the text holds none. -/
def ofText? (text : String) : Option (Option Document) := do ofTokens? (← tokens? text)

end Document

end FieldQuery.Yaml
