import FieldQuery.Text.Fold

/-!
# Wildcard patterns

In a pattern `*` stands for any run of characters and `?` for one, line feeds excepted. Every other
character stands for itself in either case. A pattern has to match the whole input.

Any text is a pattern. A bound on the size of a compiled pattern, which refuses very long ones as
invalid, is left out here: building a matcher always succeeds.
-/

namespace FieldQuery

namespace Wildcard

/-- A pattern character other than `*` stands for this character. -/
def standsFor (p c : Char) : Bool :=
  if p = '?' then c ≠ '\n' else Text.fold p = Text.fold c

/-! A table says of a pattern, place by place up to the end of an input, whether the pattern covers
all that follows. It is computed once for each rest of the pattern, so runs need no search. -/

/-- The table of a pattern with one more character, which is no `*`, in front. -/
def stepTable (accepts : Char → Bool) : (input : List Char) → (table : List Bool) → List Bool
  | c :: cs, _ :: later => (accepts c && later.headD false) :: stepTable accepts cs later
  | _, _ => [false]

/-- The table of a pattern with `*` in front: a run ends at once, or goes on over one character. -/
def runTable : (input : List Char) → (table : List Bool) → List Bool
  | c :: cs, here :: later =>
    let rest := runTable cs later
    (here || (c ≠ '\n' && rest.headD false)) :: rest
  | _, table => table

def table : (pattern input : List Char) → List Bool
  | [], cs => cs.map (fun _ => false) ++ [true]
  | p :: ps, cs =>
    if p = '*' then runTable cs (table ps cs) else stepTable (standsFor p) cs (table ps cs)

/-- The pattern covers the whole input. -/
def covers (pattern input : String) : Bool :=
  (table pattern.toList input.toList).headD false

end Wildcard

inductive MatchBehaviour where
  | acceptOnMatch
  | rejectOnMatch
  deriving DecidableEq, Repr

structure WildcardMatcher where
  behaviour : MatchBehaviour
  patterns : List String
  deriving DecidableEq, Repr

/-- Whether any pattern covers the input, or under rejection whether none does. -/
def WildcardMatcher.accepts (m : WildcardMatcher) (input : String) : Bool :=
  let covered := m.patterns.any fun pattern => Wildcard.covers pattern input
  match m.behaviour with
  | .acceptOnMatch => covered
  | .rejectOnMatch => !covered

end FieldQuery
