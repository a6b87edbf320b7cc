import Mathlib
import FieldQuery.Proofs.Number.Rounding

/-!
# The nearest double

No double is nearer to an integer than the one it is rounded to. Where another one is just as near,
the mantissa is even.
-/

namespace FieldQuery.Binary64

/-! ## Multiples -/

variable {num den : Nat}

theorem roundHalfEven_cases (num den : Nat) :
    (roundHalfEven num den = num / den ∧ 2 * (num % den) ≤ den ∧
      (2 * (num % den) = den → num / den % 2 = 0)) ∨
    (roundHalfEven num den = num / den + 1 ∧ den ≤ 2 * (num % den) ∧
      (2 * (num % den) = den → (num / den + 1) % 2 = 0)) := by
  simp only [roundHalfEven]
  split_ifs <;> omega

/-- The best of two magnitudes is the nearer one to `u`, or both are as near and its mantissa is
even, or they are the same. -/
def Beats (u best mantissa other : Nat) : Prop :=
  best = other ∨ Nat.dist best u < Nat.dist other u ∨
    Nat.dist best u = Nat.dist other u ∧ mantissa % 2 = 0

theorem Beats.congr_even {u best m m' other : Nat} (h : Beats u best m other)
    (heven : m % 2 = 0 → m' % 2 = 0) : Beats u best m' other :=
  h.imp_right (.imp_right (.imp_right heven))

theorem roundHalfEven_beats (hden : 0 < den) (num k : Nat) :
    Beats num (roundHalfEven num den * den) (roundHalfEven num den) (k * den) := by
  have hnum : num / den * den + num % den = num := Nat.div_add_mod' num den
  have hrest : num % den < den := Nat.mod_lt num hden
  have hnext : (num / den + 1) * den = num / den * den + den := Nat.succ_mul _ _
  have hother : k * den + den ≤ num / den * den ∨ k * den = num / den * den ∨
      k * den = (num / den + 1) * den ∨ (num / den + 1) * den + den ≤ k * den := by
    rcases lt_trichotomy k (num / den) with hlt | rfl | hgt
    · have hle : (k + 1) * den ≤ num / den * den := Nat.mul_le_mul_right den hlt
      rw [Nat.succ_mul] at hle
      exact .inl hle
    · exact .inr (.inl rfl)
    · rcases Nat.eq_or_lt_of_le hgt with rfl | hgt
      · exact .inr (.inr (.inl rfl))
      · have hle : (num / den + 1 + 1) * den ≤ k * den := Nat.mul_le_mul_right den hgt
        rw [Nat.succ_mul] at hle
        exact .inr (.inr (.inr hle))
  unfold Beats Nat.dist
  rcases roundHalfEven_cases num den with ⟨hround, hhalf, heven⟩ | ⟨hround, hhalf, heven⟩ <;>
    rw [hround] <;> omega

/-! ## Magnitudes -/

theorem even_round {u : Nat} (h : roundHalfEven u (1 <<< shiftOf u) % 2 = 0) :
    (round u 1).1 % 2 = 0 := by
  unfold round
  simp only [Nat.div_one]
  split
  · exact h
  · exact (by decide : leastNormal % 2 = 0)

theorem roundedUnits_beats {mantissa : Nat} (h : mantissa < 9007199254740992) (shift u : Nat) :
    Beats u (roundedUnits u 1) (round u 1).1 (mantissa <<< shift) := by
  have hunits := roundedUnits_eq u 1
  rw [Nat.div_one] at hunits
  have hpos : 0 < 1 <<< shiftOf u := by simp
  by_cases hshift : shiftOf u ≤ shift
  · -- The other magnitude is a multiple of the last place, too.
    have hmultiple : mantissa <<< shift =
        mantissa * 2 ^ (shift - shiftOf u) * (1 <<< shiftOf u) := by
      rw [Nat.one_shiftLeft, Nat.mul_assoc, ← Nat.pow_add, Nat.sub_add_cancel hshift,
        Nat.shiftLeft_eq]
    rw [hunits, ← Nat.one_shiftLeft, hmultiple]
    exact (roundHalfEven_beats hpos u _).congr_even even_round
  · -- A power of two lies between the other magnitude and the number.
    have hne : shiftOf u ≠ 0 := by omega
    have hleast : leastNormal * 1 <<< shiftOf u ≤ u :=
      (Nat.le_div_iff_mul_le hpos).mp (leastNormal_le_div hne)
    have hbelow : mantissa <<< shift < leastNormal * 1 <<< shiftOf u := by
      rw [Nat.shiftLeft_eq, Nat.one_shiftLeft]
      calc mantissa * 2 ^ shift
        _ < leastNormal * 2 * 2 ^ shift := Nat.mul_lt_mul_of_pos_right h (Nat.two_pow_pos shift)
        _ = leastNormal * 2 ^ (shift + 1) := by rw [Nat.pow_succ', Nat.mul_assoc]
        _ ≤ leastNormal * 2 ^ shiftOf u :=
          Nat.mul_le_mul_left _ (Nat.pow_le_pow_right (by decide) (by omega))
    have hbeats := roundHalfEven_beats hpos u leastNormal
    rw [hunits, ← Nat.one_shiftLeft]
    unfold Beats Nat.dist at hbeats ⊢
    omega

/-! ## Integers -/

/-- How far a double is from an integer, in units. -/
def distance (x : Binary64) (n : Int) : Nat := (x.units - n * unitsOfNat 1).natAbs

/-- Every double with another value is farther from the integer, or as far and this one is even. -/
def IsNearest (x : Binary64) (n : Int) : Prop :=
  ∀ y : Binary64, x.units = y.units ∨ x.distance n < y.distance n ∨
    x.distance n = y.distance n ∧ x.mantissa % 2 = 0

theorem mul_unitsOfNat_one (n : Int) :
    n * unitsOfNat 1 =
      if n < 0 then -(unitsOfNat n.natAbs : Int) else (unitsOfNat n.natAbs : Int) := by
  have hunits (k : Nat) : unitsOfNat k = k * unitsOfNat 1 := by
    simp [unitsOfNat, Nat.shiftLeft_eq]
  rw [hunits n.natAbs, Nat.cast_mul, ← Int.neg_mul]
  split_ifs with hneg
  · rw [Int.ofNat_natAbs_of_nonpos hneg.le, Int.neg_neg]
  · rw [Int.natAbs_of_nonneg (by omega)]

theorem isNearest_ofInt (n : Int) (h : n.natAbs < 18446744073709551616) :
    (ofInt n h).IsNearest n := by
  intro y
  have hy := roundedUnits_beats y.mantissa_lt y.shift (unitsOfNat n.natAbs)
  -- Across zero, the double is no nearer than zero itself.
  have hzero := roundedUnits_beats (by decide : 0 < 9007199254740992) 0 (unitsOfNat n.natAbs)
  have hmantissa : (ofInt n h).mantissa = (round (unitsOfNat n.natAbs) 1).1 := rfl
  unfold distance
  rw [hmantissa, mul_unitsOfNat_one, ofInt, units_ofNat, units]
  unfold Beats Nat.dist at hy hzero
  simp only [decide_eq_true_eq, Nat.zero_shiftLeft] at hzero ⊢
  generalize y.mantissa <<< y.shift = other at hy ⊢
  split_ifs <;> omega

end FieldQuery.Binary64
