/-!
# Finite double-precision numbers

A finite double is a sign, a mantissa of 53 bits and a shift. All doubles are whole multiples of a
unit of 2^-1074, so they compare as the integers that count these units.
-/

namespace FieldQuery

/-- The finite double of magnitude `mantissa <<< shift` units. -/
structure Binary64 where
  negative : Bool
  mantissa : Nat
  shift : Nat
  /-- The mantissa has at most 53 bits. -/
  mantissa_lt : mantissa < 9007199254740992
  /-- Only the smallest numbers have a mantissa with leading zeros. -/
  normal : 4503599627370496 ≤ mantissa ∨ shift = 0
  shift_le : shift ≤ 2045
  deriving DecidableEq, Repr

namespace Binary64

/-- The least mantissa without leading zeros, 2^52. -/
def leastNormal : Nat := 4503599627370496

/-- How many units the number is. -/
def units (x : Binary64) : Int :=
  let magnitude : Int := (x.mantissa <<< x.shift : Nat)
  if x.negative then -magnitude else magnitude

/-- Doubles compare by value, so the two zeros are equal. -/
def compare (x y : Binary64) : Ordering := Ord.compare x.units y.units

/-! ## Rounding to the nearest double -/

/-- The nearest whole number to a quotient, a half going to the even one. -/
def roundHalfEven (num den : Nat) : Nat :=
  let q := num / den
  let r := 2 * (num % den)
  if r < den then q else if den < r then q + 1 else q + q % 2

theorem le_roundHalfEven (num den : Nat) : num / den ≤ roundHalfEven num den := by
  simp only [roundHalfEven]
  split
  · exact Nat.le_refl _
  · split <;> omega

/-- How far a magnitude of `units` units is shifted to fit its leading 53 bits. -/
def shiftOf (units : Nat) : Nat := units.log2 - 52

theorem leastNormal_le_div {units : Nat} (h : shiftOf units ≠ 0) :
    leastNormal ≤ units / 1 <<< shiftOf units := by
  have hlog : 52 < units.log2 := by unfold shiftOf at h; omega
  have hne : units ≠ 0 := by
    intro h0
    rw [h0, Nat.log2_zero] at hlog
    exact absurd hlog (by decide)
  have hpow : leastNormal = 1 <<< 52 := by decide
  have hsum : 52 + shiftOf units = units.log2 := by unfold shiftOf; omega
  rw [hpow, Nat.one_shiftLeft, Nat.one_shiftLeft, Nat.le_div_iff_mul_le (Nat.two_pow_pos _),
    ← Nat.pow_add, hsum]
  exact Nat.log2_self_le hne

/-- The mantissa and shift nearest to `num / den` units, however large. -/
def round (num den : Nat) : Nat × Nat :=
  let shift := shiftOf (num / den)
  let mantissa := roundHalfEven num (den <<< shift)
  if mantissa < 9007199254740992 then (mantissa, shift) else (leastNormal, shift + 1)

theorem round_mantissa_lt (num den : Nat) : (round num den).1 < 9007199254740992 := by
  simp only [round]
  split
  · assumption
  · exact (by decide : leastNormal < 9007199254740992)

theorem round_normal (num den : Nat) :
    4503599627370496 ≤ (round num den).1 ∨ (round num den).2 = 0 := by
  simp only [round]
  split
  · by_cases h : shiftOf (num / den) = 0
    · exact .inr h
    · refine .inl (Nat.le_trans (leastNormal_le_div h) ?_)
      rw [Nat.one_shiftLeft, Nat.shiftLeft_eq, Nat.div_div_eq_div_mul]
      exact le_roundHalfEven _ _
  · exact .inl (Nat.le_refl leastNormal)

theorem round_shift_le (num den : Nat) : (round num den).2 ≤ shiftOf (num / den) + 1 := by
  simp only [round]
  split
  · exact Nat.le_succ _
  · exact Nat.le_refl _

/-- The double nearest to `num / den` units, if that is finite. -/
def ofUnits? (negative : Bool) (num den : Nat) : Option Binary64 :=
  if h : (round num den).2 ≤ 2045 then
    some ⟨negative, _, _, round_mantissa_lt num den, round_normal num den, h⟩
  else none

/-- One is 1 shifted this far in units. -/
def unitExponent : Nat := 1074

/-- How many units a whole number is. -/
def unitsOfNat (n : Nat) : Nat := n <<< unitExponent

theorem log2_shiftLeft_lt {n bits shift : Nat} (hbits : 0 < bits) (h : n < 1 <<< bits) :
    (n <<< shift).log2 < bits + shift := by
  by_cases h0 : n <<< shift = 0
  · rw [h0, Nat.log2_zero]
    exact Nat.add_pos_left hbits _
  · rw [Nat.one_shiftLeft] at h
    rw [Nat.log2_lt h0, Nat.shiftLeft_eq, Nat.pow_add]
    exact Nat.mul_lt_mul_of_pos_right h (Nat.two_pow_pos _)

theorem shiftOf_unitsOfNat_lt {n : Nat} (h : n < 18446744073709551616) :
    shiftOf (unitsOfNat n / 1) < 2045 := by
  have hlog : (n <<< unitExponent).log2 < 64 + unitExponent :=
    log2_shiftLeft_lt (by decide) (Nat.lt_of_lt_of_eq h (by decide))
  rw [Nat.div_one, shiftOf, unitsOfNat]
  simp only [unitExponent] at hlog ⊢
  omega

/-- The double nearest to a whole number of at most 64 bits. -/
def ofNat (negative : Bool) (n : Nat) (h : n < 18446744073709551616) : Binary64 where
  negative := negative
  mantissa := (round (unitsOfNat n) 1).1
  shift := (round (unitsOfNat n) 1).2
  mantissa_lt := round_mantissa_lt _ _
  normal := round_normal _ _
  shift_le := Nat.le_trans (round_shift_le _ _) (shiftOf_unitsOfNat_lt h)

/-- The double nearest to an integer of at most 64 bits besides its sign. -/
def ofInt (n : Int) (h : n.natAbs < 18446744073709551616) : Binary64 :=
  ofNat (decide (n < 0)) n.natAbs h

def tenTo (exponent : Nat) : Nat := Nat.pow 10 exponent

/-- The double nearest to `± coefficient * 10^exponent`, if that is finite. -/
def ofDecimal? (negative : Bool) (coefficient : Nat) (exponent : Int) : Option Binary64 :=
  match exponent with
  | .ofNat e =>
    -- Beyond 10^400 the answer no longer depends on how far beyond.
    ofUnits? negative (unitsOfNat (coefficient * tenTo (min e 400))) 1
  | .negSucc e =>
    let places := min (e + 1) ((Nat.toDigits 10 coefficient).length + 400)
    ofUnits? negative (unitsOfNat coefficient) (tenTo places)

/-! ## Scaling by powers of ten

Here the result of each step is rounded, so a number that is read this way may be next to the nearest
one.
-/

/-- The greatest power of ten that is finite has this exponent. -/
def greatestTen : Nat := 308

/-- The double nearest to a power of ten, in units. -/
def tenUnits (exponent : Nat) : Nat :=
  let (mantissa, shift) := round (unitsOfNat (tenTo exponent)) 1
  mantissa <<< shift

/-- The double nearest to the product with a power of ten, if that is finite. -/
def timesTen? (x : Binary64) (exponent : Nat) : Option Binary64 :=
  ofUnits? x.negative ((x.mantissa <<< x.shift) * tenUnits exponent) (1 <<< unitExponent)

/-- The double nearest to the quotient by a power of ten. -/
def overTen? (x : Binary64) (exponent : Nat) : Option Binary64 :=
  ofUnits? x.negative (unitsOfNat (x.mantissa <<< x.shift)) (tenUnits exponent)

/-- Divides by the greatest power of ten as often as it takes. -/
def overTens? : (steps : Nat) → Binary64 → (exponent : Nat) → Option Binary64
  | 0, x, exponent => x.overTen? exponent
  | steps + 1, x, exponent =>
    if exponent ≤ greatestTen then x.overTen? exponent
    else do overTens? steps (← x.overTen? greatestTen) (exponent - greatestTen)

/-- `± coefficient * 10^exponent` by way of the double nearest to the coefficient, if all is finite. -/
def ofScaled? (negative : Bool) (coefficient : Nat) (exponent : Int) : Option Binary64 := do
  let x ← ofUnits? negative (unitsOfNat coefficient) 1
  match exponent with
  | .ofNat e => if e ≤ greatestTen then x.timesTen? e else none
  | .negSucc e => x.overTens? (e / greatestTen) (e + 1)

end Binary64

end FieldQuery
