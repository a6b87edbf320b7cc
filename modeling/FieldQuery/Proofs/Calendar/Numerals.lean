import Mathlib
import FieldQuery.Calendar.Iso
import FieldQuery.Calendar.Reader
import FieldQuery.Proofs.Text.Digits

/-!
# Numbers in dates and times

A number is read from its digits, zeros in front or not, whatever stands behind them.
-/

namespace FieldQuery

namespace Text

theorem digitsValue_append_zeros (ds : List Char) (k : Nat) :
    digitsValue (ds ++ List.replicate k '0') = digitsValue ds * 10 ^ k := by
  simp only [digitsValue_eq, Nat.ofDigitChars_append, Nat.ofDigitChars_replicate_zero]
  exact Nat.mul_comm _ _

theorem digitsValue_append (cs ds : List Char) :
    digitsValue (cs ++ ds) = digitsValue cs * 10 ^ ds.length + digitsValue ds := by
  simp only [digitsValue_eq]
  rw [Nat.ofDigitChars_append, Nat.ofDigitChars_eq_ofDigitChars_zero, Nat.mul_comm]

theorem digitsValue_lt {ds : List Char} (h : ∀ c ∈ ds, c.isDigit = true) :
    digitsValue ds < 10 ^ ds.length := by
  induction ds with
  | nil => exact Nat.one_pos
  | cons d ds ih =>
    obtain ⟨hd, hds⟩ := List.forall_mem_cons.mp h
    have hfirst : digitsValue [d] ≤ 9 := by
      have hcode : 48 ≤ d.toNat ∧ d.toNat ≤ 57 := Char.isDigit_iff_toNat.mp hd
      have hvalue : digitsValue [d] = 10 * 0 + (d.toNat - 48) := rfl
      omega
    have hrest := ih hds
    rw [← List.singleton_append, digitsValue_append, List.length_append, List.length_singleton,
      Nat.pow_add]
    have hscaled := Nat.mul_le_mul_right (10 ^ ds.length) hfirst
    omega

/-- So many digits, filled up with zeros, are what the digits stand for behind a point. The digits
after them are dropped. -/
theorem digitsValue_take {ds : List Char} (h : ∀ c ∈ ds, c.isDigit = true) (k : Nat) :
    digitsValue (ds.take k) * 10 ^ (k - (ds.take k).length) =
      digitsValue ds * 10 ^ k / 10 ^ ds.length := by
  have hpos (k : Nat) : 0 < 10 ^ k := Nat.pow_pos (by decide)
  rcases Nat.le_total ds.length k with hall | hsome
  · obtain ⟨more, rfl⟩ := Nat.exists_eq_add_of_le' hall
    rw [List.take_of_length_le hall, Nat.add_sub_cancel, Nat.pow_add, ← Nat.mul_assoc,
      Nat.mul_div_cancel _ (hpos _)]
  · have hdropped : digitsValue (ds.drop k) < 10 ^ (ds.drop k).length :=
      digitsValue_lt fun c hc => h c (List.mem_of_mem_drop hc)
    have hlength : ds.length = (ds.drop k).length + k := by
      rw [List.length_drop]
      omega
    have hvalue := digitsValue_append (ds.take k) (ds.drop k)
    rw [List.take_append_drop] at hvalue
    rw [List.length_take_of_le hsome, Nat.sub_self, Nat.pow_zero, Nat.mul_one, hlength,
      Nat.pow_add, Nat.mul_div_mul_right _ _ (hpos k), hvalue, Nat.mul_comm (digitsValue _),
      Nat.mul_add_div (hpos _), Nat.div_eq_of_lt hdropped, Nat.add_zero]

end Text

namespace Calendar

/-- The digits `ds` stand for `n`. -/
structure IsNumeral (n : Nat) (ds : List Char) : Prop where
  digits : ∀ c ∈ ds, c.isDigit = true
  value : Text.digitsValue ds = n

/-- The number stands in two digits. -/
structure IsPair (n : Nat) (ds : List Char) : Prop extends IsNumeral n ds where
  length : ds.length = 2

def NoDigitFirst (rest : List Char) : Prop := ∀ c ∈ rest.head?, c.isDigit = false

theorem noDigitFirst_nil : NoDigitFirst [] := by simp [NoDigitFirst]

theorem noDigitFirst_cons {c : Char} {rest : List Char} (h : c.isDigit = false) :
    NoDigitFirst (c :: rest) := by simpa [NoDigitFirst] using h

variable {n : Nat} {ds rest : List Char}

/-! ## Written numbers -/

theorem isNumeral_padded (width n : Nat) : IsNumeral n (padded width n) where
  digits _ h := Text.isDigit_zeros_toDigits h
  value := Text.digitsValue_zeros_toDigits _ n

theorem length_padded (width n : Nat) :
    (padded width n).length = max width (Nat.toDigits 10 n).length := by
  simp only [padded, List.length_append, List.length_replicate]
  omega

theorem length_padded_of_lt {width : Nat} (hwidth : 0 < width) (h : n < 10 ^ width) :
    (padded width n).length = width := by
  have hdigits : (Nat.toDigits 10 n).length ≤ width :=
    (Nat.length_toDigits_le_iff (by decide) hwidth).mpr h
  rw [length_padded]
  omega

theorem isPair_padded (h : n < 100) : IsPair n (padded 2 n) where
  toIsNumeral := isNumeral_padded 2 n
  length := length_padded_of_lt (by decide) h

/-! ## Reading digits -/

theorem takeWhile_isDigit_of_noDigitFirst (h : NoDigitFirst rest) :
    rest.takeWhile Char.isDigit = [] := by
  cases rest with
  | nil => rfl
  | cons c rest => exact List.takeWhile_cons_of_neg (by simp [h c rfl])

theorem takeWhile_isDigit_append (h : IsNumeral n ds) (hrest : NoDigitFirst rest) :
    (ds ++ rest).takeWhile Char.isDigit = ds := by
  rw [List.takeWhile_append_of_pos h.digits, takeWhile_isDigit_of_noDigitFirst hrest,
    List.append_nil]

theorem noDigitFirst_take (h : NoDigitFirst rest) (k : Nat) : NoDigitFirst (rest.take k) := by
  cases rest with
  | nil => simpa using h
  | cons c rest =>
    cases k with
    | zero => exact noDigitFirst_nil
    | succ k => exact noDigitFirst_cons (h c rfl)

/-- The reader stops where it has read as many digits as it may, or where no more stand. -/
theorem digits?_append {least most : Nat} (h : IsNumeral n ds) (hleast : least ≤ ds.length)
    (hmost : ds.length ≤ most) (hrest : ds.length = most ∨ NoDigitFirst rest) :
    digits? least most (ds ++ rest) = some (n, rest) := by
  have hstop : NoDigitFirst (rest.take (most - ds.length)) := by
    rcases hrest with hfull | hrest
    · rw [hfull, Nat.sub_self, List.take_zero]
      exact noDigitFirst_nil
    · exact noDigitFirst_take hrest _
  have htake : (ds ++ rest).take most = ds ++ rest.take (most - ds.length) := by
    rw [List.take_append, List.take_of_length_le hmost]
  unfold digits?
  rw [htake, takeWhile_isDigit_append h hstop, if_neg (by omega), h.value, List.drop_left]

theorem digits?_of_noDigitFirst {least most : Nat} (hleast : 0 < least) (h : NoDigitFirst rest) :
    digits? least most rest = none := by
  unfold digits?
  rw [takeWhile_isDigit_of_noDigitFirst (noDigitFirst_take h most)]
  exact if_pos hleast

theorem skipBlanks_append (h : IsNumeral n ds) (hne : ds ≠ []) (rest : List Char) :
    skipBlanks (ds ++ rest) = ds ++ rest := by
  cases ds with
  | nil => exact absurd rfl hne
  | cons d ds =>
    have hblank := Text.isBlank_of_isDigit (h.digits d List.mem_cons_self)
    exact List.dropWhile_cons_of_neg (by simp [hblank])

theorem IsNumeral.isDigit_first {c : Char} {tail : List Char} (h : IsNumeral n ds) (hne : ds ≠ [])
    (heq : ds ++ rest = c :: tail) : c.isDigit = true := by
  cases ds with
  | nil => exact absurd rfl hne
  | cons d ds =>
    rw [List.cons_append, List.cons.injEq] at heq
    exact heq.1 ▸ h.digits d List.mem_cons_self

theorem IsPair.ne_nil (h : IsPair n ds) : ds ≠ [] := by
  rintro rfl
  cases h.length

theorem twoDigits?_append (h : IsPair n ds) (rest : List Char) :
    twoDigits? (ds ++ rest) = some (n, rest) := by
  rw [twoDigits?, skipBlanks_append h.toIsNumeral h.ne_nil]
  exact digits?_append h.toIsNumeral (by simp [h.length]) (by simp [h.length]) (.inl h.length)

theorem digits?_pair (h : IsPair n ds) (rest : List Char) :
    digits? 2 2 (ds ++ rest) = some (n, rest) :=
  digits?_append h.toIsNumeral (by simp [h.length]) (by simp [h.length]) (.inl h.length)

theorem nanoseconds?_append (h : IsNumeral n ds) (hne : ds ≠ []) (hrest : NoDigitFirst rest) :
    nanoseconds? (ds ++ rest) = some (n * 10 ^ 9 / 10 ^ ds.length, rest) := by
  unfold nanoseconds?
  simp only [takeWhile_isDigit_append h hrest, if_neg hne, Text.digitsValue_append_zeros,
    Text.digitsValue_take h.digits, h.value, List.drop_left]

/-- Any number of digits will do that is enough for the nanoseconds. -/
theorem nanoseconds?_exact {nanosecond : Nat} (h : IsNumeral n ds) (hne : ds ≠ [])
    (hexact : n * 10 ^ 9 = nanosecond * 10 ^ ds.length) (hrest : NoDigitFirst rest) :
    nanoseconds? (ds ++ rest) = some (nanosecond, rest) := by
  rw [nanoseconds?_append h hne hrest, hexact, Nat.mul_div_cancel _ (Nat.pow_pos (by decide))]

end Calendar

end FieldQuery
