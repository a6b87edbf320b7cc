import FieldQuery.Argument.Descriptor
import FieldQuery.Text.AsciiCase
import FieldQuery.Wildcard

/-!
# Argument lists

The arguments of one field, in order, with the names its pseudo-arguments get by default.

A selection by patterns gives a list whatever the patterns are, since none is refused as invalid for
its size.
-/

namespace FieldQuery

structure PseudoNames where
  orderBy : String
  page : String
  pageSize : String
  deriving DecidableEq, Repr

namespace PseudoNames

def default : PseudoNames := ⟨"OrderBy", "Page", "PageSize"⟩

end PseudoNames

structure ArgumentList where
  descriptors : List Descriptor
  names : PseudoNames
  deriving DecidableEq, Repr

namespace ArgumentList

def empty (names : PseudoNames) : ArgumentList := ⟨[], names⟩

/-- A list made from descriptors alone has the default names. -/
def ofDescriptors (descriptors : List Descriptor) : ArgumentList := ⟨descriptors, .default⟩

/-- The same descriptors as a list of their own. -/
def rebuilt (l : ArgumentList) : ArgumentList := ofDescriptors l.descriptors

def size (l : ArgumentList) : Nat := l.descriptors.length

def isEmpty (l : ArgumentList) : Bool := l.descriptors.isEmpty

def get? (l : ArgumentList) (index : Nat) : Option Descriptor := l.descriptors[index]?

def firstOf? (l : ArgumentList) (kind : ArgumentKind) : Option Descriptor :=
  l.descriptors.find? (·.kind = kind)

/-- The filters of the list, in order. -/
def filters (l : ArgumentList) : List FilterArgument := l.descriptors.filterMap Descriptor.filter?

/-- The first filter with this graph path, up to ASCII case. -/
def findByGraphPath? (l : ArgumentList) (path : String) : Option Descriptor :=
  l.descriptors.find? fun d =>
    match d.graphPath? with
    | some graphPath => Text.eqAsciiCase graphPath path
    | none => false

/-! ## Keeping part of a list -/

/-- The descriptors that pass, under the same names. -/
def retain (l : ArgumentList) (keep : Descriptor → Bool) : ArgumentList :=
  { l with descriptors := l.descriptors.filter keep }

def filterByKind (l : ArgumentList) (kind : ArgumentKind) : ArgumentList :=
  l.retain (·.kind = kind)

/-- Keeps what satisfies a predicate on the match keys. -/
def filterByKey (l : ArgumentList) (keep : String → Bool) : ArgumentList :=
  l.retain fun d => keep d.matchKey

/-- Keeps what some pattern covers. -/
def includeMatching (l : ArgumentList) (patterns : List String) : ArgumentList :=
  l.filterByKey (WildcardMatcher.accepts ⟨.acceptOnMatch, patterns⟩)

/-- Drops what some pattern covers. -/
def excludeMatching (l : ArgumentList) (patterns : List String) : ArgumentList :=
  l.filterByKey (WildcardMatcher.accepts ⟨.rejectOnMatch, patterns⟩)

/-! ## Pseudo-arguments -/

def hasKind (l : ArgumentList) (kind : ArgumentKind) : Bool :=
  l.descriptors.any (·.kind = kind)

def hasOrderBy (l : ArgumentList) : Bool := l.hasKind .orderBy

def hasPaging (l : ArgumentList) : Bool := l.hasKind .page && l.hasKind .pageSize

/-- Adds an order-by argument unless there is one. -/
def supportOrderByAs (l : ArgumentList) (name : String) : ArgumentList :=
  if l.hasOrderBy then l else { l with descriptors := l.descriptors ++ [.orderBy name] }

def supportOrderBy (l : ArgumentList) : ArgumentList := l.supportOrderByAs l.names.orderBy

/-- Adds both paging arguments unless both are there; one alone makes way for the pair. -/
def supportPagingAs (l : ArgumentList) (page pageSize : String) : ArgumentList :=
  if l.hasPaging then l
  else
    let others := l.descriptors.filter fun d => d.kind ≠ .page ∧ d.kind ≠ .pageSize
    { l with descriptors := others ++ [.page page, .pageSize pageSize] }

def supportPaging (l : ArgumentList) : ArgumentList :=
  l.supportPagingAs l.names.page l.names.pageSize

end ArgumentList

end FieldQuery
