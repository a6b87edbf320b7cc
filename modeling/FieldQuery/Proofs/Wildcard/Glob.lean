import Mathlib
import FieldQuery.Wildcard

/-!
# What a pattern covers

A pattern covers a text that falls into pieces, one for each character of the pattern. The tables
say so for every rest of the text at once.
-/

namespace FieldQuery.Wildcard

/-! ## Pieces -/

/-- A pattern character stands for a piece of the text: `*` for any run on one line, `?` for any
character but a line feed, and every other one for itself in either case. -/
inductive StandsFor : Char → List Char → Prop
  | run {piece : List Char} (line : '\n' ∉ piece) : StandsFor '*' piece
  | one {c : Char} (line : c ≠ '\n') : StandsFor '?' [c]
  | same {p c : Char} (star : p ≠ '*') (question : p ≠ '?') (fold : Text.fold p = Text.fold c) :
      StandsFor p [c]

/-- The text falls into pieces that the characters of the pattern stand for, in order. -/
def Glob (pattern text : List Char) : Prop :=
  ∃ pieces, List.Forall₂ StandsFor pattern pieces ∧ pieces.flatten = text

variable {p : Char} {ps piece text : List Char}

theorem standsFor_star : StandsFor '*' piece ↔ '\n' ∉ piece := by
  constructor
  · intro h
    cases h with
    | run line => exact line
    | same star => exact absurd rfl star
  · exact .run

theorem standsFor_other (hp : p ≠ '*') :
    StandsFor p piece ↔ ∃ c, piece = [c] ∧ standsFor p c = true := by
  unfold standsFor
  constructor
  · intro h
    cases h with
    | run => exact absurd rfl hp
    | one line => exact ⟨_, rfl, by simpa using line⟩
    | same _ question fold => exact ⟨_, rfl, by simpa [question] using fold⟩
  · rintro ⟨c, rfl, h⟩
    split at h
    case isTrue hquestion =>
      rw [hquestion]
      exact .one (by simpa using h)
    case isFalse hquestion => exact .same hp hquestion (by simpa using h)

theorem glob_nil : Glob [] text ↔ text = [] := by
  unfold Glob
  simp [eq_comm]

theorem glob_cons :
    Glob (p :: ps) text ↔
      ∃ piece rest, StandsFor p piece ∧ Glob ps rest ∧ text = piece ++ rest := by
  constructor
  · rintro ⟨pieces, hpieces, rfl⟩
    obtain ⟨piece, rest, hpiece, hrest, rfl⟩ := List.forall₂_cons_left_iff.mp hpieces
    exact ⟨piece, rest.flatten, hpiece, ⟨rest, hrest, rfl⟩, rfl⟩
  · rintro ⟨piece, _, hpiece, ⟨rest, hrest, rfl⟩, rfl⟩
    exact ⟨piece :: rest, .cons hpiece hrest, rfl⟩

/-! ## Tables -/

/-- The table says of every rest of the text whether it has the property. -/
def Tabulates (P : List Char → Prop) (table : List Bool) (text : List Char) : Prop :=
  List.Forall₂ (fun entry rest => entry = true ↔ P rest) table text.tails

variable {P : List Char → Prop} {entries : List Bool}

theorem Tabulates.head (h : Tabulates P entries text) : entries.headD false = true ↔ P text := by
  unfold Tabulates at h
  cases text with
  | nil | cons =>
    rw [List.tails] at h
    obtain ⟨_, _, hentry, -, rfl⟩ := List.forall₂_cons_right_iff.mp h
    exact hentry

theorem tabulates_nil (text : List Char) :
    Tabulates (Glob []) (text.map (fun _ => false) ++ [true]) text := by
  unfold Tabulates
  induction text with
  | nil => exact .cons (by simp [glob_nil]) .nil
  | cons c rest ih => exact .cons (by simp [glob_nil]) ih

theorem tabulates_stepTable (h : Tabulates P entries text) (accepts : Char → Bool) :
    Tabulates (fun rest => ∃ c later, accepts c = true ∧ P later ∧ rest = c :: later)
      (stepTable accepts text entries) text := by
  induction text generalizing entries with
  | nil => exact .cons (by simp) .nil
  | cons c rest ih =>
    obtain ⟨entry, later, -, hlater, rfl⟩ := List.forall₂_cons_right_iff.mp h
    have hhead : later.headD false = true ↔ P rest := Tabulates.head hlater
    refine .cons ?_ (ih hlater)
    rw [Bool.and_eq_true, hhead]
    constructor
    · rintro ⟨haccepts, hrest⟩
      exact ⟨c, rest, haccepts, hrest, rfl⟩
    · rintro ⟨c', later', haccepts, hlater', heq⟩
      obtain ⟨rfl, rfl⟩ := List.cons.inj heq
      exact ⟨haccepts, hlater'⟩

theorem tabulates_runTable (h : Tabulates P entries text) :
    Tabulates (fun rest => ∃ run later, '\n' ∉ run ∧ P later ∧ rest = run ++ later)
      (runTable text entries) text := by
  induction text generalizing entries with
  | nil =>
    obtain ⟨entry, later, hentry, hlater, rfl⟩ := List.forall₂_cons_right_iff.mp h
    obtain rfl := List.forall₂_nil_right_iff.mp hlater
    refine .cons ?_ .nil
    rw [hentry]
    simp
  | cons c rest ih =>
    obtain ⟨entry, later, hentry, hlater, rfl⟩ := List.forall₂_cons_right_iff.mp h
    have hrest := ih hlater
    refine .cons ?_ hrest
    rw [Bool.or_eq_true, hentry, Bool.and_eq_true, hrest.head, decide_eq_true_eq]
    constructor
    · rintro (hhere | ⟨hc, run, later', hrun, hlater', rfl⟩)
      · exact ⟨[], c :: rest, List.not_mem_nil, hhere, rfl⟩
      · exact ⟨c :: run, later', by simp [hrun, Ne.symm hc], hlater', rfl⟩
    · rintro ⟨run, later', hrun, hlater', heq⟩
      cases run with
      | nil => exact Or.inl (by rwa [heq])
      | cons c' run =>
        obtain ⟨rfl, rfl⟩ := List.cons.inj heq
        rw [List.mem_cons, not_or] at hrun
        exact Or.inr ⟨Ne.symm hrun.1, run, later', hrun.2, hlater', rfl⟩

theorem Tabulates.congr {Q : List Char → Prop} (h : Tabulates P entries text)
    (hiff : ∀ rest, P rest ↔ Q rest) : Tabulates Q entries text :=
  List.Forall₂.imp (fun _ rest hentry => hentry.trans (hiff rest)) h

theorem tabulates_table (ps text : List Char) : Tabulates (Glob ps) (table ps text) text := by
  induction ps with
  | nil => exact tabulates_nil text
  | cons p ps ih =>
    unfold table
    split
    case isTrue hp =>
      refine (tabulates_runTable ih).congr fun rest => ?_
      rw [glob_cons, hp]
      simp only [standsFor_star]
    case isFalse hp =>
      refine (tabulates_stepTable ih (standsFor p)).congr fun rest => ?_
      rw [glob_cons]
      simp only [standsFor_other hp]
      constructor
      · rintro ⟨c, later, hc, hlater, rfl⟩
        exact ⟨[c], later, ⟨c, rfl, hc⟩, hlater, rfl⟩
      · rintro ⟨_, later, ⟨c, rfl, hc⟩, hlater, rfl⟩
        exact ⟨c, later, hc, hlater, rfl⟩

theorem covers_iff_glob (pattern input : String) :
    covers pattern input = true ↔ Glob pattern.toList input.toList :=
  (tabulates_table pattern.toList input.toList).head

end FieldQuery.Wildcard
