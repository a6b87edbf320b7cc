import Mathlib
import FieldQuery.Text.AsciiCase
import FieldQuery.Text.Lower

/-!
# Lower case, character by character

What a capital sigma becomes depends on the text around it, and nothing else does. With one small
sigma for both, the lower case of a text is that of its parts in a row.
-/

namespace FieldQuery.Text

/-! ## One small sigma -/

def plainSigma (c : Char) : Char := if c = 'ς' then 'σ' else c

/-- The lower case of a text, with the final sigma written as any other. -/
def lowerKey (s : String) : List Char := (toLower s).toList.map plainSigma

theorem map_plainSigma_lowerAt (before : List Char) (c : Char) (after : List Char) :
    (lowerAt before c after).map plainSigma = (lowerAt [] c []).map plainSigma := by
  unfold lowerAt
  by_cases hsigma : c = '\u03A3'
  · simp only [if_pos hsigma]
    split <;> rfl
  · simp only [if_neg hsigma]

theorem map_plainSigma_lowerFrom (before cs : List Char) :
    (lowerFrom before cs).map plainSigma =
      cs.flatMap fun c => (lowerAt [] c []).map plainSigma := by
  induction cs generalizing before with
  | nil => rfl
  | cons c rest ih =>
    rw [lowerFrom, List.map_append, map_plainSigma_lowerAt, ih, List.flatMap_cons]

theorem lowerKey_append (s t : String) : lowerKey (s ++ t) = lowerKey s ++ lowerKey t := by
  simp only [lowerKey, toLower, String.toList_ofList, map_plainSigma_lowerFrom,
    String.toList_append, List.flatMap_append]

/-! ## ASCII -/

theorem toLower_eq_self {c : Char} (h : ¬ (65 ≤ c.toNat ∧ c.toNat < 65 + 26)) : c.toLower = c := by
  unfold Char.toLower
  rw [dif_neg]
  rintro ⟨hge, hle⟩
  have hge : 65 ≤ c.toNat := hge
  have hle : c.toNat ≤ 90 := hle
  omega

/-- What is the same for both cases of an ASCII letter is the same for every character and its ASCII
lower case. -/
theorem apply_toLower {α : Type} (f : Char → α)
    (h : ∀ n < 26, f (Char.ofNat (65 + n)).toLower = f (Char.ofNat (65 + n))) (c : Char) :
    f c.toLower = f c := by
  by_cases hcapital : 65 ≤ c.toNat ∧ c.toNat < 65 + 26
  · have hn := h (c.toNat - 65) (by omega)
    rwa [Nat.add_sub_cancel' hcapital.1, Char.ofNat_toNat] at hn
  · rw [toLower_eq_self hcapital]

theorem isCased_toLower : ∀ c : Char, isCased c.toLower = isCased c :=
  apply_toLower isCased (by decide +kernel)

theorem isCaseIgnorable_toLower : ∀ c : Char, isCaseIgnorable c.toLower = isCaseIgnorable c :=
  apply_toLower isCaseIgnorable (by decide +kernel)

theorem lowerRuns_toLower : ∀ c : Char, lowerRuns.apply c.toLower = lowerRuns.apply c :=
  apply_toLower lowerRuns.apply (by decide +kernel)

theorem special_toLower : ∀ c : Char,
    (c.toLower = '\u03A3' ↔ c = '\u03A3') ∧ (c.toLower = '\u0130' ↔ c = '\u0130') := by
  intro c
  have h := apply_toLower (fun c => (decide (c = '\u03A3'), decide (c = '\u0130')))
    (by decide +kernel) c
  simpa using h

theorem startsCased_map_toLower (cs : List Char) :
    startsCased (cs.map Char.toLower) = startsCased cs := by
  unfold startsCased
  rw [List.dropWhile_map]
  have hsame : isCaseIgnorable ∘ Char.toLower = isCaseIgnorable := funext isCaseIgnorable_toLower
  rw [hsame]
  cases cs.dropWhile isCaseIgnorable with
  | nil => rfl
  | cons c rest => exact isCased_toLower c

theorem lowerAt_map_toLower (before : List Char) (c : Char) (after : List Char) :
    lowerAt (before.map Char.toLower) c.toLower (after.map Char.toLower) =
      lowerAt before c after := by
  unfold lowerAt
  simp only [special_toLower, startsCased_map_toLower, lowerRuns_toLower]

theorem lowerFrom_map_toLower (before cs : List Char) :
    lowerFrom (before.map Char.toLower) (cs.map Char.toLower) = lowerFrom before cs := by
  induction cs generalizing before with
  | nil => rfl
  | cons c rest ih =>
    rw [List.map_cons, lowerFrom, lowerFrom, lowerAt_map_toLower, ← List.map_cons, ih]

theorem eqAsciiCase_iff {a b : String} :
    eqAsciiCase a b = true ↔ a.toList.map Char.toLower = b.toList.map Char.toLower := beq_iff_eq

theorem eqAsciiCase_comm (a b : String) : eqAsciiCase a b = eqAsciiCase b a := BEq.comm

theorem eqAsciiCase_congr_left {a b : String} (h : eqAsciiCase a b = true) (c : String) :
    eqAsciiCase a c = eqAsciiCase b c := by
  rw [eqAsciiCase, eqAsciiCase, eqAsciiCase_iff.mp h]

theorem eqAsciiCase_congr_right {a b : String} (h : eqAsciiCase a b = true) (c : String) :
    eqAsciiCase c a = eqAsciiCase c b := by
  rw [eqAsciiCase, eqAsciiCase, eqAsciiCase_iff.mp h]

/-- Texts that differ in ASCII case only have the same lower case. -/
theorem toLower_eq_of_eqAsciiCase {a b : String} (h : eqAsciiCase a b = true) :
    toLower a = toLower b := by
  have hsame := eqAsciiCase_iff.mp h
  have ha := lowerFrom_map_toLower [] a.toList
  rw [hsame, lowerFrom_map_toLower [] b.toList] at ha
  rw [toLower, toLower, ha]

end FieldQuery.Text
