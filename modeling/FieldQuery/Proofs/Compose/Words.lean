import Mathlib
import FieldQuery.Compose.OrderBy

/-!
# Words of a text

The words of an order-by text are its longest runs of word characters, in order. Gaps without word
characters keep them apart.
-/

namespace FieldQuery.Compose

/-- No word character is in the text. -/
def IsGap (cs : List Char) : Prop := ∀ c ∈ cs, isWordChar c = false

/-- A word has nothing but word characters in it, and at least one. -/
structure IsWord (cs : List Char) : Prop where
  ne_nil : cs ≠ []
  chars : ∀ c ∈ cs, isWordChar c = true

/-- No word goes on into the text. -/
def EndsWord (cs : List Char) : Prop := ∀ c, cs.head? = some c → isWordChar c = false

/-- The longest runs of word characters: a word follows a gap, which may be empty at the start of
the text, and does not go on into what follows it. -/
inductive IsWords : List Char → List String → Prop
  | none {gap : List Char} (hgap : IsGap gap) : IsWords gap []
  | word {gap run rest : List Char} {ws : List String} (hgap : IsGap gap) (hrun : IsWord run)
      (hends : EndsWord rest) (later : IsWords rest ws) :
      IsWords (gap ++ (run ++ rest)) (String.ofList run :: ws)

variable {cs rest run gap word : List Char} {ws : List String}

theorem wordsFrom_gap (h : IsGap gap) (rest : List Char) :
    wordsFrom [] (gap ++ rest) = wordsFrom [] rest := by
  induction gap with
  | nil => rfl
  | cons c gap ih =>
    obtain ⟨hc, hgap⟩ := List.forall_mem_cons.mp h
    rw [List.cons_append, wordsFrom, hc, if_neg Bool.false_ne_true, ih hgap]
    rfl

theorem wordsFrom_run (h : ∀ c ∈ run, isWordChar c = true) (word rest : List Char) :
    wordsFrom word (run ++ rest) = wordsFrom (run.reverse ++ word) rest := by
  induction run generalizing word with
  | nil => rfl
  | cons c run ih =>
    obtain ⟨hc, hrun⟩ := List.forall_mem_cons.mp h
    rw [List.cons_append, wordsFrom, if_pos hc, ih hrun, List.reverse_cons, List.append_assoc]
    rfl

theorem wordsFrom_end (h : EndsWord rest) (word : List Char) :
    wordsFrom word rest = endWord word ++ wordsFrom [] rest := by
  cases rest with
  | nil => simp [wordsFrom, endWord]
  | cons c rest =>
    have hc : isWordChar c = false := h c rfl
    simp [wordsFrom, hc, endWord]

theorem endWord_reverse (h : run ≠ []) : endWord run.reverse = [String.ofList run] := by
  rw [endWord, if_neg (by simpa using h), List.reverse_reverse]

theorem IsWords.eq (h : IsWords cs ws) : wordsFrom [] cs = ws := by
  induction h with
  | @none gap hgap =>
    rw [← List.append_nil gap, wordsFrom_gap hgap]
    rfl
  | word hgap hrun hends _ ih =>
    rw [wordsFrom_gap hgap, wordsFrom_run hrun.chars, List.append_nil, wordsFrom_end hends,
      endWord_reverse hrun.ne_nil, ih]
    rfl

theorem IsGap.cons {c : Char} (hc : isWordChar c = false) (h : IsGap gap) : IsGap (c :: gap) :=
  List.forall_mem_cons.mpr ⟨hc, h⟩

theorem IsGap.endsWord (h : IsGap gap) : EndsWord gap := fun c hc => h c (List.mem_of_mem_head? hc)

theorem IsWord.singleton {c : Char} (hc : isWordChar c = true) : IsWord [c] :=
  ⟨List.cons_ne_nil _ _, List.forall_mem_singleton.mpr hc⟩

theorem IsWord.cons {c : Char} (hc : isWordChar c = true) (h : IsWord run) : IsWord (c :: run) :=
  ⟨List.cons_ne_nil _ _, List.forall_mem_cons.mpr ⟨hc, h.chars⟩⟩

/-- A character in front of a text goes to the first gap, to the first word, or is a word. -/
theorem exists_isWords (cs : List Char) : ∃ ws, IsWords cs ws := by
  induction cs with
  | nil => exact ⟨[], .none (by simp [IsGap])⟩
  | cons c cs ih =>
    obtain ⟨ws, h⟩ := ih
    cases hc : isWordChar c with
    | false =>
      cases h with
      | none hgap => exact ⟨[], .none (hgap.cons hc)⟩
      | word hgap hrun hends later => exact ⟨_, .word (hgap.cons hc) hrun hends later⟩
    | true =>
      have hnil : IsGap [] := by simp [IsGap]
      have hfirst : IsWord [c] := .singleton hc
      cases h with
      | none hgap => exact ⟨_, .word hnil hfirst hgap.endsWord (.none hgap)⟩
      | @word gap run rest ws hgap hrun hends later =>
        cases gap with
        | nil => exact ⟨_, .word hnil (hrun.cons hc) hends later⟩
        | cons d gap =>
          have hends' : EndsWord (d :: gap ++ (run ++ rest)) := by
            intro e he
            obtain rfl := Option.some.inj he
            exact hgap _ List.mem_cons_self
          exact ⟨_, .word hnil hfirst hends' (.word hgap hrun hends later)⟩

/-- The words of a text are its longest runs of word characters, and no other row of words is. -/
theorem isWords_iff {text : String} : IsWords text.toList ws ↔ words text = ws := by
  constructor
  · exact IsWords.eq
  · rintro rfl
    obtain ⟨ws, h⟩ := exists_isWords text.toList
    rwa [words, h.eq]

end FieldQuery.Compose
