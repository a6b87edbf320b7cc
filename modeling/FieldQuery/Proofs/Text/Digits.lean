import Mathlib
import FieldQuery.Text.Blank
import FieldQuery.Text.Digits

/-!
# Reading written numbers

A natural number is read from its own decimal digits, which no blanks have to be cut from.
-/

namespace FieldQuery.Text

theorem isBlank_of_isDigit {c : Char} (h : c.isDigit = true) : isBlank c = false := by
  have hcode : 48 ≤ c.toNat ∧ c.toNat ≤ 57 := Char.isDigit_iff_toNat.mp h
  simp only [isBlank, CodeRanges.contains, blankRanges, List.any_cons, List.any_nil,
    Bool.or_eq_false_iff, Bool.and_eq_false_iff, decide_eq_false_iff_not, and_true]
  omega

theorem dropWhile_isBlank_of_head {cs : List Char} (h : ∀ c ∈ cs.head?, isBlank c = false) :
    cs.dropWhile isBlank = cs := by
  cases cs with
  | nil => rfl
  | cons c rest => exact List.dropWhile_cons_of_neg (by simp [h c rfl])

/-- Blanks are cut off at the ends only. -/
theorem trimBlanks_of_ends {cs : List Char} (hhead : ∀ c ∈ cs.head?, isBlank c = false)
    (hlast : ∀ c ∈ cs.getLast?, isBlank c = false) : trimBlanks cs = cs := by
  have hreverse : ∀ c ∈ cs.reverse.head?, isBlank c = false := by rwa [List.head?_reverse]
  rw [trimBlanks, dropWhile_isBlank_of_head hhead, dropWhile_isBlank_of_head hreverse,
    List.reverse_reverse]

theorem trimBlanks_eq_self {cs : List Char} (h : ∀ c ∈ cs, isBlank c = false) :
    trimBlanks cs = cs :=
  trimBlanks_of_ends (fun c hc => h c (List.mem_of_mem_head? hc))
    fun c hc => h c (List.mem_of_getLast? hc)

/-! ## Digits of a number -/

theorem isDigit_of_mem_toString {n : Nat} {c : Char} (h : c ∈ (toString n).toList) :
    c.isDigit = true := by
  rw [Nat.toString_eq_ofList_toDigits, String.toList_ofList] at h
  exact Nat.isDigit_of_mem_toDigits (by decide) (by decide) h

theorem trimBlanks_toString (n : Nat) :
    trimBlanks (toString n).toList = (toString n).toList :=
  trimBlanks_eq_self fun _ h => isBlank_of_isDigit (isDigit_of_mem_toString h)

theorem digitsValue_eq (cs : List Char) : digitsValue cs = Nat.ofDigitChars 10 cs 0 :=
  Nat.ofDigitChars_eq_foldl.symm

theorem digitsValue_zeros_append (k : Nat) (ds : List Char) :
    digitsValue (List.replicate k '0' ++ ds) = digitsValue ds := by
  simp only [digitsValue_eq, Nat.ofDigitChars_append, Nat.ofDigitChars_replicate_zero,
    Nat.mul_zero]

theorem digitsValue_zeros_toDigits (k n : Nat) :
    digitsValue (List.replicate k '0' ++ Nat.toDigits 10 n) = n := by
  rw [digitsValue_zeros_append, digitsValue_eq, Nat.ofDigitChars_ten_toDigits]

theorem isDigit_zeros_toDigits {k n : Nat} {c : Char}
    (h : c ∈ List.replicate k '0' ++ Nat.toDigits 10 n) : c.isDigit = true := by
  rcases List.mem_append.mp h with hzero | hdigit
  · rw [List.eq_of_mem_replicate hzero]
    rfl
  · exact Nat.isDigit_of_mem_toDigits (by decide) (by decide) hdigit

theorem digitsValue_toString (n : Nat) : digitsValue (toString n).toList = n := by
  rw [Nat.toString_eq_ofList_toDigits, String.toList_ofList, digitsValue_eq,
    Nat.ofDigitChars_ten_toDigits]

theorem toList_toString_ne_nil (n : Nat) : (toString n).toList ≠ [] := by
  rw [Nat.toString_eq_ofList_toDigits, String.toList_ofList]
  exact Nat.toDigits_ne_nil

theorem readNat?_of_digits {cs : List Char} (hne : cs ≠ []) (h : cs.all Char.isDigit = true)
    (bound : Nat) :
    readNat? bound cs = if digitsValue cs < bound then some (digitsValue cs) else none := by
  unfold readNat?
  extract_lets digits value
  have hself : digits = cs := by
    unfold digits
    split
    · simp at h
    · rfl
  have hvalue : value = digitsValue cs := congrArg digitsValue hself
  rw [if_pos (by rw [hself]; exact ⟨hne, h⟩), hvalue]

theorem readNat?_toString (bound n : Nat) :
    readNat? bound (toString n).toList = if n < bound then some n else none := by
  have hdigits : (toString n).toList.all Char.isDigit = true :=
    List.all_eq_true.mpr fun _ => isDigit_of_mem_toString
  rw [readNat?_of_digits (toList_toString_ne_nil n) hdigits, digitsValue_toString]

end FieldQuery.Text
