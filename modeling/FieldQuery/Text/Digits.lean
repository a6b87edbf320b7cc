/-!
# Decimal digits

Reading whole numbers from ASCII digits.
-/

namespace FieldQuery.Text

def digitsValue (cs : List Char) : Nat :=
  cs.foldl (fun n c => 10 * n + (c.toNat - '0'.toNat)) 0

/-- A natural number below `bound`: digits, after a plus sign if there is one. -/
def readNat? (bound : Nat) (cs : List Char) : Option Nat :=
  let digits := match cs with
    | '+' :: rest => rest
    | cs => cs
  if digits ≠ [] ∧ digits.all Char.isDigit then
    let n := digitsValue digits
    if n < bound then some n else none
  else none

end FieldQuery.Text
