import Mathlib
import FieldQuery.Number.Basic

/-!
# Rounding to doubles

Rounding to the nearest double keeps the order of integers, though it takes different ones together.
-/

namespace FieldQuery

namespace Binary64

/-! ## Quotients -/

variable {a b den : Nat}

theorem roundHalfEven_le (num den : Nat) : roundHalfEven num den ≤ num / den + 1 := by
  simp only [roundHalfEven]
  split
  · exact Nat.le_succ _
  · split <;> omega

theorem roundHalfEven_mono (h : a ≤ b) : roundHalfEven a den ≤ roundHalfEven b den := by
  have hquot : a / den ≤ b / den := Nat.div_le_div_right h
  rcases Nat.lt_or_eq_of_le hquot with hlt | heq
  · have hup := roundHalfEven_le a den
    have hdown := le_roundHalfEven b den
    omega
  · have hrest : a % den ≤ b % den := by
      have ha := Nat.div_add_mod a den
      have hb := Nat.div_add_mod b den
      rw [heq] at ha
      omega
    simp only [roundHalfEven, heq]
    split_ifs <;> omega

/-! ## Magnitudes -/

/-- The magnitude of the double nearest to a quotient, in units. -/
def roundedUnits (num den : Nat) : Nat := (round num den).1 <<< (round num den).2

theorem shiftOf_mono (h : a ≤ b) : shiftOf a ≤ shiftOf b := by
  have hlog : a.log2 ≤ b.log2 := by
    rw [Nat.log2_eq_log_two, Nat.log2_eq_log_two]
    exact Nat.log_mono_right h
  unfold shiftOf
  omega

theorem div_shift_lt (num den : Nat) :
    num / (den <<< shiftOf (num / den)) < 9007199254740992 := by
  have hbits : (num / den).log2 + 1 ≤ 53 + shiftOf (num / den) := by
    unfold shiftOf
    omega
  have hsize : num / den < 2 ^ 53 * 2 ^ shiftOf (num / den) :=
    calc num / den
      _ < 2 ^ ((num / den).log2 + 1) := Nat.lt_log2_self
      _ ≤ 2 ^ (53 + shiftOf (num / den)) := Nat.pow_le_pow_right (by decide) hbits
      _ = 2 ^ 53 * 2 ^ shiftOf (num / den) := Nat.pow_add ..
  rw [Nat.shiftLeft_eq, ← Nat.div_div_eq_div_mul]
  exact (Nat.div_lt_iff_lt_mul (Nat.two_pow_pos _)).mpr hsize

/-- A mantissa that is rounded up to 54 bits stands for the same magnitude. -/
theorem roundedUnits_eq (num den : Nat) :
    roundedUnits num den =
      roundHalfEven num (den <<< shiftOf (num / den)) * 2 ^ shiftOf (num / den) := by
  have hlt := div_shift_lt num den
  have hle := roundHalfEven_le num (den <<< shiftOf (num / den))
  unfold roundedUnits round
  simp only
  split
  · exact Nat.shiftLeft_eq _ _
  · have hfull : roundHalfEven num (den <<< shiftOf (num / den)) = leastNormal * 2 := by
      unfold leastNormal
      omega
    rw [hfull, Nat.shiftLeft_eq, Nat.pow_succ', Nat.mul_assoc]

theorem roundedUnits_mono (h : a ≤ b) : roundedUnits a den ≤ roundedUnits b den := by
  have hshift : shiftOf (a / den) ≤ shiftOf (b / den) := shiftOf_mono (Nat.div_le_div_right h)
  rw [roundedUnits_eq, roundedUnits_eq]
  rcases Nat.lt_or_eq_of_le hshift with hlt | heq
  · -- A power of two lies between the two.
    have hup : roundHalfEven a (den <<< shiftOf (a / den)) ≤ leastNormal * 2 := by
      have hle := roundHalfEven_le a (den <<< shiftOf (a / den))
      have hdiv := div_shift_lt a den
      unfold leastNormal
      omega
    have hdown : leastNormal ≤ roundHalfEven b (den <<< shiftOf (b / den)) := by
      have hne : shiftOf (b / den) ≠ 0 := by omega
      have hdiv := leastNormal_le_div hne
      rw [Nat.one_shiftLeft, Nat.div_div_eq_div_mul, ← Nat.shiftLeft_eq] at hdiv
      exact hdiv.trans (le_roundHalfEven _ _)
    calc roundHalfEven a (den <<< shiftOf (a / den)) * 2 ^ shiftOf (a / den)
      _ ≤ leastNormal * 2 * 2 ^ shiftOf (a / den) := Nat.mul_le_mul_right _ hup
      _ = leastNormal * 2 ^ (shiftOf (a / den) + 1) := by rw [Nat.pow_succ', Nat.mul_assoc]
      _ ≤ leastNormal * 2 ^ shiftOf (b / den) :=
        Nat.mul_le_mul_left _ (Nat.pow_le_pow_right (by decide) hlt)
      _ ≤ roundHalfEven b (den <<< shiftOf (b / den)) * 2 ^ shiftOf (b / den) :=
        Nat.mul_le_mul_right _ hdown
  · rw [heq]
    exact Nat.mul_le_mul_right _ (roundHalfEven_mono h)

/-! ## Integers -/

theorem units_ofNat (negative : Bool) (n : Nat) (h : n < 18446744073709551616) :
    (ofNat negative n h).units =
      if negative then -(roundedUnits (unitsOfNat n) 1 : Int)
      else (roundedUnits (unitsOfNat n) 1 : Int) := by
  unfold units ofNat roundedUnits
  simp only

theorem unitsOfNat_mono (h : a ≤ b) : unitsOfNat a ≤ unitsOfNat b := by
  unfold unitsOfNat
  rw [Nat.shiftLeft_eq, Nat.shiftLeft_eq]
  exact Nat.mul_le_mul_right _ h

theorem units_ofInt_mono {m n : Int} (hm : m.natAbs < 18446744073709551616)
    (hn : n.natAbs < 18446744073709551616) (h : m ≤ n) :
    (ofInt m hm).units ≤ (ofInt n hn).units := by
  have hmono {a b : Nat} (hab : a ≤ b) :
      (roundedUnits (unitsOfNat a) 1 : Int) ≤ roundedUnits (unitsOfNat b) 1 :=
    Int.ofNat_le.mpr (roundedUnits_mono (unitsOfNat_mono hab))
  rw [ofInt, ofInt, units_ofNat, units_ofNat]
  simp only [decide_eq_true_eq]
  split_ifs with hneg hneg'
  · have hle := hmono (a := n.natAbs) (b := m.natAbs) (by omega)
    omega
  · omega
  · omega
  · exact hmono (by omega)

end Binary64

namespace Number

/-- The nearest double of a number, in units. -/
def units (n : Number) : Int := n.toBinary64.units

theorem toInt64?_ofInt64 (i : Int64) : (ofInt64 i).toInt64? = some i := by
  have hlt : i.toInt < 9223372036854775808 := i.toInt_lt
  rw [ofInt64, toInt64?, if_pos hlt, Int64.ofInt_toInt]

theorem toInt64?_eq_some {n : Number} {i : Int64} : n.toInt64? = some i ↔ n = .ofInt64 i := by
  constructor
  · intro h
    cases n with
    | integer n lower upper =>
      simp only [toInt64?, Option.ite_none_right_eq_some, Option.some.injEq] at h
      obtain ⟨hlt, rfl⟩ := h
      have hback : (Int64.ofInt n).toInt = n := Int64.toInt_ofInt_of_le lower hlt
      simp only [ofInt64, hback]
    | float x => cases h
  · rintro rfl
    exact toInt64?_ofInt64 i

theorem units_ofInt64_mono {i j : Int64} (h : i.toInt ≤ j.toInt) :
    (ofInt64 i).units ≤ (ofInt64 j).units :=
  Binary64.units_ofInt_mono _ _ h

end Number

end FieldQuery
