import Mathlib
import FieldQuery.Proofs.Text.Digits

/-!
# Texts for natural numbers

A natural number is read from exactly the texts that hold its digits behind any zeros, with a plus
sign in front of them or not. Cutting blanks off leaves what stands between them.
-/

namespace FieldQuery.Text

/-! ## Digits -/

theorem toDigits_of_isDigit {c : Char} (h : c.isDigit = true) :
    c.toNat - '0'.toNat < 10 ∧ Nat.toDigits 10 (c.toNat - '0'.toNat) = [c] := by
  have hcode : 48 ≤ c.toNat ∧ c.toNat ≤ 57 := Char.isDigit_iff_toNat.mp h
  have hzero : '0'.toNat = 48 := rfl
  have hlt : c.toNat - '0'.toNat < 10 := by omega
  refine ⟨hlt, ?_⟩
  rw [Nat.toDigits_of_lt_base hlt, List.cons.injEq]
  refine ⟨Char.toNat_inj.mp ?_, rfl⟩
  rw [Nat.toNat_digitChar_of_lt_ten hlt]
  omega

theorem digitsValue_concat (ds : List Char) (d : Char) :
    digitsValue (ds ++ [d]) = 10 * digitsValue ds + (d.toNat - '0'.toNat) := by
  simp only [digitsValue, List.foldl_append, List.foldl_cons, List.foldl_nil]

/-- Digits are those of the number they stand for, behind zeros. -/
theorem eq_zeros_toDigits {ds : List Char} (hne : ds ≠ []) (h : ∀ c ∈ ds, c.isDigit = true) :
    ∃ zeros, ds = List.replicate zeros '0' ++ Nat.toDigits 10 (digitsValue ds) := by
  induction ds using List.reverseRecOn with
  | nil => exact absurd rfl hne
  | append_singleton front d ih =>
    rw [List.forall_mem_append, List.forall_mem_singleton] at h
    obtain ⟨hlt, hdigit⟩ := toDigits_of_isDigit h.2
    rw [digitsValue_concat]
    by_cases hfront : front = []
    · subst hfront
      refine ⟨0, ?_⟩
      rw [show digitsValue [] = 0 from rfl, Nat.mul_zero, Nat.zero_add, hdigit]
      rfl
    · obtain ⟨zeros, hzeros⟩ := ih hfront h.1
      rcases Nat.eq_zero_or_pos (digitsValue front) with hvalue | hvalue
      · -- Only zeros stand in front, the last one being all the digits of zero.
        refine ⟨zeros + 1, ?_⟩
        rw [hvalue] at hzeros
        rw [hvalue, Nat.mul_zero, Nat.zero_add, hdigit, List.replicate_succ', hzeros]
        rfl
      · refine ⟨zeros, ?_⟩
        rw [← Nat.toDigits_append_toDigits (by decide) hvalue hlt, hdigit, ← List.append_assoc,
          ← hzeros]

/-! ## Numbers -/

/-- The text is for `n`: its digits behind any zeros, and a plus sign in front or not. -/
inductive IsDecimal (n : Nat) : List Char → Prop
  | plain (zeros : Nat) : IsDecimal n (List.replicate zeros '0' ++ Nat.toDigits 10 n)
  | signed (zeros : Nat) : IsDecimal n ('+' :: (List.replicate zeros '0' ++ Nat.toDigits 10 n))

variable {bound n : Nat} {cs : List Char}

theorem zeros_toDigits_ne_nil (zeros n : Nat) :
    List.replicate zeros '0' ++ Nat.toDigits 10 n ≠ [] :=
  List.append_ne_nil_of_right_ne_nil _ Nat.toDigits_ne_nil

theorem readNat?_zeros_toDigits (bound zeros n : Nat) :
    readNat? bound (List.replicate zeros '0' ++ Nat.toDigits 10 n) =
      if n < bound then some n else none := by
  have hdigits : (List.replicate zeros '0' ++ Nat.toDigits 10 n).all Char.isDigit = true :=
    List.all_eq_true.mpr fun _ => isDigit_zeros_toDigits
  rw [readNat?_of_digits (zeros_toDigits_ne_nil zeros n) hdigits, digitsValue_zeros_toDigits]

/-- A plus sign in front of digits makes no difference. -/
theorem readNat?_plus (hne : cs ≠ []) (h : cs.all Char.isDigit = true) :
    readNat? bound ('+' :: cs) = readNat? bound cs := by
  rw [readNat?_of_digits hne h]
  exact if_pos ⟨hne, h⟩

theorem readNat?_some (h : readNat? bound cs = some n) :
    n < bound ∧ ∃ ds, (cs = ds ∨ cs = '+' :: ds) ∧ ds ≠ [] ∧ (∀ c ∈ ds, c.isDigit = true) ∧
      digitsValue ds = n := by
  unfold readNat? at h
  extract_lets digits value at h
  have hform : cs = digits ∨ cs = '+' :: digits := by
    unfold digits
    split
    · exact .inr rfl
    · exact .inl rfl
  split at h
  case isTrue hdigits =>
    split at h
    case isTrue hlt =>
      obtain rfl : value = n := Option.some.inj h
      exact ⟨hlt, digits, hform, hdigits.1, List.all_eq_true.mp hdigits.2, rfl⟩
    case isFalse => cases h
  case isFalse => cases h

theorem readNat?_eq_some_iff : readNat? bound cs = some n ↔ n < bound ∧ IsDecimal n cs := by
  constructor
  · intro h
    obtain ⟨hlt, ds, hform, hne, hdigits, rfl⟩ := readNat?_some h
    obtain ⟨zeros, hzeros⟩ := eq_zeros_toDigits hne hdigits
    refine ⟨hlt, ?_⟩
    generalize digitsValue ds = n at hzeros ⊢
    subst hzeros
    rcases hform with rfl | rfl
    · exact .plain zeros
    · exact .signed zeros
  · rintro ⟨hlt, h⟩
    cases h with
    | plain zeros => rw [readNat?_zeros_toDigits, if_pos hlt]
    | signed zeros =>
      have hdigits : (List.replicate zeros '0' ++ Nat.toDigits 10 n).all Char.isDigit = true :=
        List.all_eq_true.mpr fun _ => isDigit_zeros_toDigits
      rw [readNat?_plus (zeros_toDigits_ne_nil zeros n) hdigits, readNat?_zeros_toDigits,
        if_pos hlt]

/-! ## Blanks around a text -/

def Blank (cs : List Char) : Prop := ∀ c ∈ cs, isBlank c = true

instance (cs : List Char) : Decidable (Blank cs) :=
  List.decidableBAll (isBlank · = true) cs

/-- The text is `part` between blanks. -/
def IsPadded (part cs : List Char) : Prop :=
  ∃ before after, Blank before ∧ Blank after ∧ cs = before ++ part ++ after

theorem isPadded_trimBlanks (cs : List Char) : IsPadded (trimBlanks cs) cs := by
  refine ⟨cs.takeWhile isBlank, ((cs.dropWhile isBlank).reverse.takeWhile isBlank).reverse, ?_, ?_,
    ?_⟩
  · exact fun c hc => List.mem_takeWhile_imp hc
  · exact fun c hc => List.mem_takeWhile_imp (List.mem_reverse.mp hc)
  · rw [trimBlanks, List.append_assoc, ← List.reverse_append, List.takeWhile_append_dropWhile,
      List.reverse_reverse, List.takeWhile_append_dropWhile]

theorem dropWhile_isBlank_append {before part : List Char} (hbefore : Blank before)
    (hne : part ≠ []) (h : ∀ c ∈ part, isBlank c = false) (after : List Char) :
    (before ++ part ++ after).dropWhile isBlank = part ++ after := by
  rw [List.append_assoc, List.dropWhile_append_of_pos hbefore]
  cases part with
  | nil => exact absurd rfl hne
  | cons c rest => exact List.dropWhile_cons_of_neg (by simp [h c List.mem_cons_self])

theorem trimBlanks_of_isPadded {part : List Char} (hne : part ≠ [])
    (h : ∀ c ∈ part, isBlank c = false) (hpadded : IsPadded part cs) : trimBlanks cs = part := by
  obtain ⟨before, after, hbefore, hafter, rfl⟩ := hpadded
  have hback : Blank after.reverse := fun c hc => hafter c (List.mem_reverse.mp hc)
  have hturned := dropWhile_isBlank_append hback (List.reverse_ne_nil_iff.mpr hne)
    (fun c hc => h c (List.mem_reverse.mp hc)) []
  rw [List.append_nil, List.append_nil] at hturned
  rw [trimBlanks, dropWhile_isBlank_append hbefore hne h, List.reverse_append, hturned,
    List.reverse_reverse]

theorem IsDecimal.ne_nil (h : IsDecimal n cs) : cs ≠ [] := by
  cases h with
  | plain zeros => exact zeros_toDigits_ne_nil zeros n
  | signed zeros => exact List.cons_ne_nil _ _

theorem IsDecimal.isBlank_eq_false (h : IsDecimal n cs) : ∀ c ∈ cs, isBlank c = false := by
  have hdigits (zeros : Nat) :
      ∀ c ∈ List.replicate zeros '0' ++ Nat.toDigits 10 n, isBlank c = false :=
    fun c hc => isBlank_of_isDigit (isDigit_zeros_toDigits hc)
  cases h with
  | plain zeros => exact hdigits zeros
  | signed zeros => exact List.forall_mem_cons.mpr ⟨by decide, hdigits zeros⟩

theorem isDecimal_trimBlanks_iff :
    IsDecimal n (trimBlanks cs) ↔ ∃ part, IsPadded part cs ∧ IsDecimal n part := by
  constructor
  · intro h
    exact ⟨_, isPadded_trimBlanks cs, h⟩
  · rintro ⟨part, hpadded, h⟩
    rwa [trimBlanks_of_isPadded h.ne_nil h.isBlank_eq_false hpadded]

end FieldQuery.Text
