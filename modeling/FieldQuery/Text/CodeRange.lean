/-!
# Tables of code points

A character class is a list of inclusive ranges of code points, and a case mapping a list of runs
that shift characters by a constant.
-/

namespace FieldQuery.Text

/-- Inclusive ranges of code points, in increasing order. -/
abbrev CodeRanges := List (Nat × Nat)

def CodeRanges.contains (ranges : CodeRanges) (c : Char) : Bool :=
  ranges.any fun r => r.1 ≤ c.toNat && c.toNat ≤ r.2

/-- Runs of a case mapping: every `step`-th character from `first` to `last` is shifted so that
`first` goes to `target`. -/
abbrev CaseRuns := List (Nat × Nat × Nat × Nat)

/-- A character that no run covers stands for itself. -/
def CaseRuns.apply (runs : CaseRuns) (c : Char) : Char :=
  match runs.find? fun (first, last, step, _) =>
      first ≤ c.toNat && c.toNat ≤ last && (c.toNat - first) % step == 0 with
  | some (first, _, _, target) => Char.ofNat (target + (c.toNat - first))
  | none => c

end FieldQuery.Text
