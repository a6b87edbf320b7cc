import Mathlib
import FieldQuery.Proofs.Number.Rounding
import FieldQuery.Query.Evaluation

/-!
# Integers at the limit of the signed range

A stored integer of the signed 64-bit range is compared exactly. A greater one is compared as a
double, and the parameter with it: it is never found to be the lesser of the two, but near the limit
it is found to be equal.
-/

namespace FieldQuery

/-- What an operator means for integers. -/
def CompareOp.HoldsOf (op : CompareOp) (n i : Int) : Prop :=
  match op with
  | .eq => n = i
  | .ge => i ≤ n
  | .lt => n < i

/-- The integers stand on two sides of 2^63, which is the nearest double of both: one at most 2^10
above it, the other at most 2^9 below. -/
structure MeetAtLimit (n i : Int) : Prop where
  above : 9223372036854775808 ≤ n ∧ n ≤ 9223372036854776832
  below : 9223372036854775296 ≤ i ∧ i < 9223372036854775808

/-! ## Doubles around the limit -/

namespace Binary64

/-- The integers with the double 2^63 are the ones from 2^9 below it to 2^10 above. -/
theorem units_around_limit :
    (ofInt 9223372036854775295 (by decide)).units < (ofInt 9223372036854775808 (by decide)).units ∧
    (ofInt 9223372036854775296 (by decide)).units = (ofInt 9223372036854775808 (by decide)).units ∧
    (ofInt 9223372036854776832 (by decide)).units = (ofInt 9223372036854775808 (by decide)).units ∧
    (ofInt 9223372036854775808 (by decide)).units <
      (ofInt 9223372036854776833 (by decide)).units := by
  decide +kernel

variable {n i : Int} {hn : n.natAbs < 18446744073709551616} {hi : i.natAbs < 18446744073709551616}

theorem units_eq_of_meet (h : MeetAtLimit n i) : (ofInt n hn).units = (ofInt i hi).units := by
  obtain ⟨-, hbelow, habove, -⟩ := units_around_limit
  have hlow := units_ofInt_mono (by decide) hi h.below.1
  have hmiddle := units_ofInt_mono hi (by decide) h.below.2.le
  have hmiddle' := units_ofInt_mono (by decide) hn h.above.1
  have hhigh := units_ofInt_mono hn (by decide) h.above.2
  omega

theorem units_lt_of_not_meet (habove : 9223372036854775808 ≤ n) (hbelow : i < 9223372036854775808)
    (h : ¬ MeetAtLimit n i) : (ofInt i hi).units < (ofInt n hn).units := by
  obtain ⟨hlow, -, -, hhigh⟩ := units_around_limit
  have hup := units_ofInt_mono (by decide) hn habove
  have hdown := units_ofInt_mono hi (by decide) hbelow.le
  by_cases hnear : n ≤ 9223372036854776832
  · have hfar : i ≤ 9223372036854775295 := by
      by_contra hclose
      exact h ⟨⟨habove, hnear⟩, by omega, hbelow⟩
    have hfar := units_ofInt_mono hi (by decide) hfar
    omega
  · have hfar := units_ofInt_mono (m := 9223372036854776833) (by decide) hn (by omega)
    omega

end Binary64

/-! ## Comparisons -/

variable {n : Int} {lower : -9223372036854775808 ≤ n} {upper : n < 18446744073709551616} {i : Int64}

namespace Number

theorem compareInt64_of_meet (h : MeetAtLimit n i.toInt) :
    (integer n lower upper).compareInt64 i = .eq := by
  have hwide : (integer n lower upper).toInt64? = none := if_neg (by have := h.above; omega)
  rw [compareInt64, hwide]
  exact compare_eq_iff_eq.mpr (Binary64.units_eq_of_meet h)

theorem compareInt64_of_not_meet (h : ¬ MeetAtLimit n i.toInt) :
    (integer n lower upper).compareInt64 i = compare n i.toInt := by
  by_cases hwithin : n < 9223372036854775808
  · have hexact : (integer n lower upper).toInt64? = some (Int64.ofInt n) := if_pos hwithin
    rw [compareInt64, hexact]
    simp only [Int64.toInt_ofInt_of_le lower hwithin]
  · have hwide : (integer n lower upper).toInt64? = none := if_neg hwithin
    have hi : i.toInt < 9223372036854775808 := i.toInt_lt
    have hgt : compare n i.toInt = .gt := compare_gt_iff_gt.mpr (by omega)
    rw [compareInt64, hwide, hgt]
    exact compare_gt_iff_gt.mpr (Binary64.units_lt_of_not_meet (by omega) hi h)

end Number

theorem CompareOp.holds_integer (op : CompareOp) (x : Number) (i : Int64) :
    op.holds (.number x) (.integer i) = true ↔
      match op with
      | .eq => x.compareInt64 i = .eq
      | .ge => x.compareInt64 i ≠ .lt
      | .lt => x.compareInt64 i = .lt := by
  have hcompare : (Json.number x).compare? (.integer i) = some (x.compareInt64 i) := by
    rw [Json.compare?]
  cases op with
  | eq => simp [holds, hcompare, Json.isNull]
  | ge => cases hx : x.compareInt64 i <;> simp [holds, hcompare, hx]
  | lt => simp [holds, hcompare]

theorem CompareOp.holds_integer_iff (op : CompareOp) :
    (op.holds (.number (.integer n lower upper)) (.integer i) = true ↔ op.HoldsOf n i.toInt) ↔
      ¬ (op = .eq ∧ MeetAtLimit n i.toInt) := by
  rw [holds_integer]
  by_cases hmeet : MeetAtLimit n i.toInt
  · have hlt : i.toInt < n := lt_of_lt_of_le hmeet.below.2 hmeet.above.1
    rw [Number.compareInt64_of_meet hmeet]
    cases op with
    | eq => simp [HoldsOf, hmeet, hlt.ne']
    | ge => simp [HoldsOf, hlt.le]
    | lt => simp [HoldsOf, hlt.le]
  · rw [Number.compareInt64_of_not_meet hmeet]
    cases op with
    | eq => simp [HoldsOf, hmeet]
    | ge => simp [HoldsOf, compare_ge_iff_ge]
    | lt => simp [HoldsOf, compare_lt_iff_lt]

theorem Comparison.eval_of_access {c : Comparison} {params : List Parameter} {scope value : Json}
    {param : Parameter} (hvalue : c.member.access c.nullPropagating scope = .ok value)
    (hparam : params[c.param]? = some param) :
    c.eval params scope = .ok (c.op.holds value param) := by
  rw [eval, hparam]
  simp only [hvalue]
  rfl

/-- Comparing a stored integer with an integer gives an answer. It is the right one, unless two
integers are asked to be equal that meet at the limit of the signed range. -/
theorem comparison_exact_iff {c : Comparison} {params : List Parameter} {scope : Json}
    (hvalue : c.member.access c.nullPropagating scope = .ok (.number (.integer n lower upper)))
    (hparam : params[c.param]? = some (.integer i)) :
    ∃ answer, c.eval params scope = .ok answer ∧
      ((answer = true ↔ c.op.HoldsOf n i.toInt) ↔ ¬ (c.op = .eq ∧ MeetAtLimit n i.toInt)) :=
  ⟨_, c.eval_of_access hvalue hparam, c.op.holds_integer_iff⟩

/-! ### Sizes at the limit -/

def sizeIs : Comparison := ⟨⟨["Size"]⟩, .eq, 0, false⟩

def ofSize (n : Int) (lower : -9223372036854775808 ≤ n) (upper : n < 18446744073709551616) : Json :=
  .object [("Size", .number (.integer n lower upper))]

/-- An integer is told from the last one of the signed range as soon as it is more than 2^10 above
the limit. -/
theorem size_told_from_last :
    let last : Int64 := 9223372036854775807
    let scope := ofSize 9223372036854776833 (by decide) (by decide)
    sizeIs.member.access false scope =
        .ok (.number (.integer 9223372036854776833 (by decide) (by decide))) ∧
      [Parameter.integer last][sizeIs.param]? = some (.integer last) ∧
      sizeIs.eval [.integer last] scope = .ok false := by
  intro last scope
  have hvalue : sizeIs.member.access sizeIs.nullPropagating scope =
      .ok (.number (.integer 9223372036854776833 (by decide) (by decide))) := rfl
  have hparam : [Parameter.integer last][sizeIs.param]? = some (.integer last) := rfl
  obtain ⟨answer, heval, hexact⟩ := comparison_exact_iff hvalue hparam
  have hapart : ¬ MeetAtLimit 9223372036854776833 last.toInt :=
    fun h => absurd h.above.2 (by decide)
  have hanswer : answer = true ↔ (9223372036854776833 : Int) = last.toInt :=
    hexact.mpr fun h => hapart h.2
  cases answer with
  | false => exact ⟨hvalue, hparam, heval⟩
  | true => exact absurd (hanswer.mp rfl) (by decide)

/-- The integer right behind the last one of the signed range is found to be equal to it. -/
theorem size_taken_for_last :
    let last : Int64 := 9223372036854775807
    sizeIs.eval [.integer last] (ofSize 9223372036854775808 (by decide) (by decide)) = .ok true ∧
      (9223372036854775808 : Int) ≠ last.toInt := by
  decide +kernel

end FieldQuery
