/-!
# Configuration formats

What a configuration file can be asked for, whatever format it is written in.
-/

namespace FieldQuery

/-- How values of a format are read; each reader fails on a value of another kind. -/
structure Format (V : Type) where
  /-- The members of a structure, in order and with repeats. -/
  fields? : V → Option (List (String × V))
  /-- A structure given by its members alone, in their declared order. -/
  positional? : V → Option (List V)
  list? : V → Option (List V)
  natural? : V → Option Nat
  boolean? : V → Option Bool
  text? : V → Option String

namespace Format

variable {V : Type}

/-- No known name occurs twice; unknown ones do not matter. -/
def noRepeats (known : List String) (entries : List (String × V)) : Bool :=
  known.all fun name => (entries.filter (·.1 = name)).length ≤ 1

/-- The members of a structure by name. By position there may be no more of them than names. -/
def members? (f : Format V) (known : List String) (v : V) : Option (List (String × V)) :=
  match f.fields? v with
  | some entries => if noRepeats known entries then some entries else none
  | none =>
    match f.positional? v with
    | some values => if values.length ≤ known.length then some (known.zip values) else none
    | none => none

end Format

end FieldQuery
