import FieldQuery.Number.Binary64
import FieldQuery.Text.Digits

/-!
# Decimal text of doubles

A double is written with the fewest digits that read back as it, the nearest such number first. A
style says which of two equally near numbers that is, and where the decimal point may stand.
-/

namespace FieldQuery

/-- The number `± 0.d₁d₂… * 10^point`; zero has no digits. -/
structure Decimal where
  negative : Bool
  digits : List Char
  point : Int
  deriving DecidableEq, Repr

/-! ## The fewest digits that read back -/

/-- Which one to take of two coefficients that are equally near. -/
inductive Tie where
  | up
  | toEven
  deriving DecidableEq, Repr

/-- Whether the lower of the two is taken. -/
def Tie.takesLower (tie : Tie) (lower : Nat) : Bool := tie = .toEven && lower % 2 == 0

namespace Binary64

/-- A double and the bounds of what rounds to it, as multiples of `1 / den`. -/
structure Interval where
  low : Nat
  value : Nat
  high : Nat
  den : Nat
  /-- The bounds themselves round to the double. -/
  closed : Bool

/-- Below a power of two the doubles are twice as dense, so the lower bound is nearer there. -/
def interval (x : Binary64) : Interval :=
  let scaled (n : Nat) : Nat := n <<< (x.shift - unitExponent)
  let below := if x.mantissa = leastNormal ∧ x.shift ≠ 0 then 1 else 2
  { low := scaled (4 * x.mantissa - below)
    value := scaled (4 * x.mantissa)
    high := scaled (4 * x.mantissa + 2)
    den := 4 <<< (unitExponent - x.shift)
    closed := x.mantissa % 2 == 0 }

def countDigits (n : Nat) : Nat := (Nat.toDigits 10 n).length

/-- The power of ten just above the value: `10^(point - 1) ≤ value < 10^point`. -/
def Interval.point (i : Interval) : Int :=
  if i.den ≤ i.value then countDigits (i.value / i.den)
  else 1 - (countDigits ((i.den + i.value - 1) / i.value - 1) : Int)

/-- `coefficient * 10^exponent` rounds to the double. -/
def Interval.covers (i : Interval) (coefficient : Nat) (exponent : Int) : Bool :=
  let scaled := coefficient * i.den * tenTo exponent.toNat
  let low := i.low * tenTo (-exponent).toNat
  let high := i.high * tenTo (-exponent).toNat
  if i.closed then low ≤ scaled && scaled ≤ high else low < scaled && scaled < high

/-- The multiple of `10^exponent` that rounds to the double, the nearer of the two neighbours. -/
def Interval.neighbour? (i : Interval) (tie : Tie) (exponent : Int) : Option Nat :=
  let value := i.value * tenTo (-exponent).toNat
  let step := i.den * tenTo exponent.toNat
  let below := value / step
  match i.covers below exponent, i.covers (below + 1) exponent with
  | true, true =>
    let toLower := value - below * step
    let toUpper := (below + 1) * step - value
    if toLower < toUpper ∨ (toLower = toUpper ∧ tie.takesLower below) then some below
    else some (below + 1)
  | true, false => some below
  | false, true => some (below + 1)
  | false, false => none

/-- The digits of a coefficient without the zeros at its end. -/
def significantDigits (coefficient : Nat) : List Char :=
  ((Nat.toDigits 10 coefficient).reverse.dropWhile (· == '0')).reverse

/-- Seventeen digits always suffice. -/
def shortest (tie : Tie) (x : Binary64) : Decimal :=
  if x.mantissa = 0 then ⟨x.negative, [], 0⟩
  else
    let i := x.interval
    let exponents := (List.range 17).map fun (k : Nat) => i.point - ((k + 1 : Nat) : Int)
    match exponents.findSome? fun e => (i.neighbour? tie e).map (·, e) with
    | some (coefficient, exponent) =>
      ⟨x.negative, significantDigits coefficient, countDigits coefficient + exponent⟩
    | none => ⟨x.negative, [], 0⟩

end Binary64

/-! ## Writing -/

/-- How ties are broken, where the decimal point may stand, and what follows a number without a
fraction. -/
structure DecimalStyle where
  tie : Tie
  /-- The places of the point that need no exponent; without them none ever does. -/
  positional : Option (Int × Int)
  wholeSuffix : String

namespace Decimal

def zeros (n : Nat) : String := String.ofList (List.replicate n '0')

def positional (d : Decimal) (wholeSuffix : String) : String :=
  if d.digits = [] then "0" ++ wholeSuffix
  else if d.point ≤ 0 then "0." ++ zeros (-d.point).toNat ++ String.ofList d.digits
  else
    let places := d.point.toNat
    if d.digits.length ≤ places then
      String.ofList d.digits ++ zeros (places - d.digits.length) ++ wholeSuffix
    else
      String.ofList (d.digits.take places) ++ "." ++ String.ofList (d.digits.drop places)

/-- One digit before the point, and the exponent with its sign. -/
def scientific (d : Decimal) : String :=
  let fraction := d.digits.drop 1
  let exponent := d.point - 1
  String.ofList (d.digits.take 1) ++ (if fraction = [] then "" else "." ++ String.ofList fraction)
    ++ "e" ++ (if exponent < 0 then "-" else "+") ++ toString exponent.natAbs

def write (style : DecimalStyle) (d : Decimal) : String :=
  (if d.negative then "-" else "") ++
    match style.positional with
    | some (least, greatest) =>
      if d.digits ≠ [] ∧ (d.point < least ∨ greatest < d.point) then d.scientific
      else d.positional style.wholeSuffix
    | none => d.positional style.wholeSuffix

end Decimal

/-- The text of a double. -/
def Binary64.write (style : DecimalStyle) (x : Binary64) : String :=
  (x.shortest style.tie).write style

namespace Decimal

/-! ## Reading -/

/-- The digits at the front of a text, and the rest. -/
def spanDigits (cs : List Char) : List Char × List Char := cs.span Char.isDigit

/-- `e` or `E`, a sign if any, and digits; the empty text stands for the exponent 0. -/
def readExponent? : List Char → Option Int
  | [] => some 0
  | e :: rest =>
    if e = 'e' ∨ e = 'E' then
      let (negative, rest) := match rest with
        | '-' :: rest => (true, rest)
        | '+' :: rest => (false, rest)
        | rest => (false, rest)
      let (digits, after) := spanDigits rest
      if digits = [] ∨ after ≠ [] then none
      else if negative then some (-(Text.digitsValue digits : Int)) else some (Text.digitsValue digits)
    else none

/-- A decimal text as a sign, a coefficient and a power of ten. -/
def parts? (s : String) : Option (Bool × Nat × Int) :=
  let (negative, cs) := match s.toList with
    | '-' :: cs => (true, cs)
    | '+' :: cs => (false, cs)
    | cs => (false, cs)
  let (whole, rest) := spanDigits cs
  let (fraction, rest) := match rest with
    | '.' :: rest => spanDigits rest
    | rest => ([], rest)
  if whole = [] ∧ fraction = [] then none
  else do
    let exponent ← readExponent? rest
    return (negative, Text.digitsValue (whole ++ fraction), exponent - fraction.length)

/-- The double nearest to a decimal text, if that is finite. -/
def readBinary64? (s : String) : Option Binary64 := do
  let (negative, coefficient, exponent) ← parts? s
  Binary64.ofDecimal? negative coefficient exponent

/-- The double that a decimal text is scaled to, which need not be the nearest. -/
def scanBinary64? (s : String) : Option Binary64 := do
  let (negative, coefficient, exponent) ← parts? s
  Binary64.ofScaled? negative coefficient exponent

end Decimal

end FieldQuery
