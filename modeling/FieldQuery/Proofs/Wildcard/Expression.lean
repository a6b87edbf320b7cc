import Mathlib
import FieldQuery.Proofs.Wildcard.Glob

/-!
# Patterns as regular expressions

A pattern has a regular expression: the pattern is escaped, and then the escapes of `*` and `?` are
replaced. Read by the rules for such expressions it matches what the pattern covers.
-/

namespace FieldQuery.Wildcard

/-! ## Writing -/

/-- Characters that mean something else in an expression, unless a backslash is in front. -/
def isSpecial (c : Char) : Bool :=
  ['\\', '.', '+', '*', '?', '(', ')', '|', '[', ']', '{', '}', '^', '$', '#', '&', '-',
    '~'].contains c

def escaped (c : Char) : List Char := if isSpecial c then ['\\', c] else [c]

/-- From left to right, every occurrence of two characters in a row gives way to others. -/
def replacePair (first second : Char) (by_ : List Char) : List Char → List Char
  | [] => []
  | [c] => [c]
  | c :: d :: rest =>
    if c = first ∧ d = second then by_ ++ replacePair first second by_ rest
    else c :: replacePair first second by_ (d :: rest)

/-- The expression of a pattern, between the marks for the start and the end of a text. -/
def expression (pattern : String) : List Char :=
  let runs := replacePair '\\' '*' ['.', '*'] (pattern.toList.flatMap escaped)
  '^' :: replacePair '\\' '?' ['.'] runs ++ ['$']

/-! ## Reading -/

inductive Part where
  /-- The character in either case. -/
  | character (c : Char)
  /-- A dot. -/
  | any
  /-- A dot that is repeated. -/
  | anyRun
  deriving DecidableEq, Repr

/-- The parts of an expression up to its end mark. No other syntax is read. -/
def readParts? : List Char → Option (List Part)
  | [] => none
  | c :: rest =>
    if c = '\\' then
      match rest with
      | [] => none
      | d :: later => if isSpecial d then (readParts? later).map (.character d :: ·) else none
    else if c = '.' then
      match rest with
      | [] => none
      | d :: later =>
        if d = '*' then (readParts? later).map (.anyRun :: ·)
        else (readParts? (d :: later)).map (.any :: ·)
    else if c = '$' then if rest = [] then some [] else none
    else if isSpecial c then none
    else (readParts? rest).map (.character c :: ·)

def readExpression? : List Char → Option (List Part)
  | [] => none
  | c :: rest => if c = '^' then readParts? rest else none

/-- A dot stands for any character but a line feed. -/
def Part.Accepts (part : Part) (piece : List Char) : Prop :=
  match part with
  | .character c => ∃ d, piece = [d] ∧ Text.fold c = Text.fold d
  | .any => ∃ d, piece = [d] ∧ d ≠ '\n'
  | .anyRun => '\n' ∉ piece

/-- The whole text falls into pieces that the parts accept, in order. -/
def Matches (parts : List Part) (text : List Char) : Prop :=
  ∃ pieces, List.Forall₂ Part.Accepts parts pieces ∧ pieces.flatten = text

/-! ## Replaced escapes -/

section

variable {first second : Char} {by_ rest : List Char}

theorem replacePair_other {c : Char} (h : c ≠ first) :
    replacePair first second by_ (c :: rest) = c :: replacePair first second by_ rest := by
  cases rest with
  | nil => rfl
  | cons d later => rw [replacePair, if_neg fun hpair => h hpair.1]

theorem replacePair_append {cs : List Char} (h : first ∉ cs) :
    replacePair first second by_ (cs ++ rest) = cs ++ replacePair first second by_ rest := by
  induction cs with
  | nil => rfl
  | cons c cs ih =>
    rw [List.mem_cons, not_or] at h
    rw [List.cons_append, replacePair_other (Ne.symm h.1), ih h.2, List.cons_append]

theorem replacePair_pair :
    replacePair first second by_ (first :: second :: rest) =
      by_ ++ replacePair first second by_ rest := by
  rw [replacePair, if_pos ⟨rfl, rfl⟩]

theorem replacePair_first (h : rest.head? ≠ some second) :
    replacePair first second by_ (first :: rest) = first :: replacePair first second by_ rest := by
  cases rest with
  | nil => rfl
  | cons d later => rw [replacePair, if_neg fun hpair => h (congrArg some hpair.2)]

end

/-- A whole escape, or a text that has no backslash and does not make one in front of it an escape
of the given character. -/
def IsToken (second : Char) (cs : List Char) : Prop :=
  (∃ c, cs = ['\\', c]) ∨ (cs ≠ [] ∧ '\\' ∉ cs ∧ cs.head? ≠ some second)

section

variable {second : Char} {write : Char → List Char} {by_ : List Char}

theorem IsToken.head?_ne {cs : List Char} (h : IsToken second cs) (hsecond : second ≠ '\\')
    (rest : List Char) : (cs ++ rest).head? ≠ some second := by
  rcases h with ⟨c, rfl⟩ | ⟨hne, -, hhead⟩
  · simpa using Ne.symm hsecond
  · rwa [List.head?_append_of_ne_nil _ hne]

theorem head?_flatMap_ne (h : ∀ p, IsToken second (write p)) (hsecond : second ≠ '\\')
    (ps : List Char) : (ps.flatMap write).head? ≠ some second := by
  cases ps with
  | nil => simp
  | cons p ps => exact (h p).head?_ne hsecond _

/-- Only an escape that is written as such is replaced, however backslashes stand next to it. -/
theorem replacePair_flatMap (h : ∀ p, IsToken second (write p)) (hsecond : second ≠ '\\')
    (ps : List Char) :
    replacePair '\\' second by_ (ps.flatMap write) =
      ps.flatMap fun p => if write p = ['\\', second] then by_ else write p := by
  induction ps with
  | nil => rfl
  | cons p ps ih =>
    have hhead := head?_flatMap_ne h hsecond ps
    rw [List.flatMap_cons, List.flatMap_cons, ← ih]
    rcases h p with ⟨c, hc⟩ | ⟨hne, hback, -⟩
    · rw [hc]
      by_cases hcsecond : c = second
      · rw [hcsecond, if_pos rfl]
        exact replacePair_pair
      · have hescape : (c :: ps.flatMap write).head? ≠ some second := by simpa using hcsecond
        rw [if_neg (by simpa using hcsecond), List.cons_append, List.singleton_append,
          replacePair_first hescape, List.cons_append, List.singleton_append]
        by_cases hcback : c = '\\'
        · rw [hcback, replacePair_first hhead]
        · rw [replacePair_other hcback]
    · have hplain : write p ≠ ['\\', second] := by
        intro heq
        rw [heq] at hback
        exact hback List.mem_cons_self
      rw [if_neg hplain]
      exact replacePair_append hback

end

/-! ## The expression of a pattern -/

/-- What a pattern character becomes in the expression. -/
def translated (p : Char) : List Char :=
  if p = '*' then ['.', '*'] else if p = '?' then ['.'] else escaped p

theorem escaped_cases (p : Char) :
    (isSpecial p = true ∧ escaped p = ['\\', p]) ∨ (isSpecial p = false ∧ escaped p = [p]) := by
  unfold escaped
  cases isSpecial p <;> simp

theorem ne_of_isSpecial {p c : Char} (hp : isSpecial p = false) (hc : isSpecial c = true) :
    p ≠ c := by
  rintro rfl
  rw [hp] at hc
  cases hc

theorem isToken_escaped {second : Char} (h : isSpecial second = true) (p : Char) :
    IsToken second (escaped p) := by
  rcases escaped_cases p with ⟨-, hp⟩ | ⟨hspecial, hp⟩
  · exact Or.inl ⟨p, hp⟩
  · have hback : p ≠ '\\' := ne_of_isSpecial hspecial (by decide)
    rw [hp]
    exact Or.inr ⟨by simp, by simpa using Ne.symm hback, by simpa using ne_of_isSpecial hspecial h⟩

theorem escaped_eq_escape {p c : Char} (hc : isSpecial c = true) :
    escaped p = ['\\', c] ↔ p = c := by
  rcases escaped_cases p with ⟨-, hp⟩ | ⟨hspecial, hp⟩
  · simp [hp]
  · simp [hp, ne_of_isSpecial hspecial hc]

/-- What a pattern character has become once the escapes of `*` are replaced. -/
def runTranslated (p : Char) : List Char := if p = '*' then ['.', '*'] else escaped p

theorem isToken_runTranslated (p : Char) : IsToken '?' (runTranslated p) := by
  unfold runTranslated
  split
  · exact Or.inr (by decide)
  · exact isToken_escaped (by decide) p

theorem translated_of_runTranslated (p : Char) :
    (if runTranslated p = ['\\', '?'] then ['.'] else runTranslated p) = translated p := by
  unfold translated runTranslated
  by_cases hstar : p = '*'
  · simp [hstar]
  · rw [if_neg hstar, if_neg hstar]
    simp only [escaped_eq_escape (show isSpecial '?' = true by decide)]

theorem expression_eq (pattern : String) :
    expression pattern = '^' :: pattern.toList.flatMap translated ++ ['$'] := by
  have hruns : replacePair '\\' '*' ['.', '*'] (pattern.toList.flatMap escaped) =
      pattern.toList.flatMap runTranslated := by
    rw [replacePair_flatMap (isToken_escaped (by decide)) (by decide)]
    simp only [escaped_eq_escape (show isSpecial '*' = true by decide)]
    rfl
  rw [expression, hruns, replacePair_flatMap isToken_runTranslated (by decide)]
  simp only [translated_of_runTranslated]

/-! ## What the expression matches -/

/-- The part that a pattern character is read back as. -/
def Part.ofPattern (p : Char) : Part :=
  if p = '*' then .anyRun else if p = '?' then .any else .character p

theorem readParts?_translated (p : Char) {rest : List Char} (h : rest.head? ≠ some '*') :
    readParts? (translated p ++ rest) = (readParts? rest).map (Part.ofPattern p :: ·) := by
  unfold translated Part.ofPattern
  by_cases hstar : p = '*'
  · simp [hstar, readParts?]
  · by_cases hquestion : p = '?'
    · cases rest with
      | nil => simp [hquestion, readParts?]
      | cons d later =>
        have hd : d ≠ '*' := by simpa using h
        simp [hquestion, readParts?, hd]
    · rw [if_neg hstar, if_neg hstar, if_neg hquestion, if_neg hquestion]
      rcases escaped_cases p with ⟨hspecial, hp⟩ | ⟨hspecial, hp⟩
      · rw [hp]
        simp [readParts?, hspecial]
      · have hback : p ≠ '\\' := ne_of_isSpecial hspecial (by decide)
        have hdot : p ≠ '.' := ne_of_isSpecial hspecial (by decide)
        have hend : p ≠ '$' := ne_of_isSpecial hspecial (by decide)
        rw [hp, List.singleton_append]
        cases rest <;> simp [readParts?, hback, hdot, hend, hspecial]

theorem head?_translated_ne (ps : List Char) :
    (ps.flatMap translated ++ ['$']).head? ≠ some '*' := by
  cases ps with
  | nil => simp
  | cons p ps =>
    rw [List.flatMap_cons]
    unfold translated
    by_cases hstar : p = '*'
    · simp [hstar]
    · by_cases hquestion : p = '?'
      · simp [hquestion]
      · rcases escaped_cases p with ⟨-, hp⟩ | ⟨-, hp⟩ <;> simp [hstar, hquestion, hp]

theorem readExpression?_expression (pattern : String) :
    readExpression? (expression pattern) = some (pattern.toList.map Part.ofPattern) := by
  rw [expression_eq, List.cons_append, readExpression?, if_pos rfl]
  induction pattern.toList with
  | nil => rfl
  | cons p ps ih =>
    rw [List.flatMap_cons, List.append_assoc, readParts?_translated p (head?_translated_ne ps), ih]
    rfl

theorem accepts_ofPattern (p : Char) (piece : List Char) :
    (Part.ofPattern p).Accepts piece ↔ StandsFor p piece := by
  unfold Part.ofPattern
  by_cases hstar : p = '*'
  · rw [if_pos hstar, hstar, standsFor_star]
    rfl
  · rw [if_neg hstar, standsFor_other hstar]
    unfold standsFor
    by_cases hquestion : p = '?' <;> simp [hquestion, Part.Accepts]

theorem matches_ofPattern (ps text : List Char) :
    Matches (ps.map Part.ofPattern) text ↔ Glob ps text := by
  unfold Matches Glob
  simp only [List.forall₂_map_left_iff, accepts_ofPattern]

/-- A matcher accepts a text if some pattern covers it as a glob, or under rejection if none does.
The regular expression of each pattern can be read, and matches the texts that the pattern covers. -/
theorem accepts_iff_glob (patterns : List String) (input : String) :
    (WildcardMatcher.accepts ⟨.acceptOnMatch, patterns⟩ input = true ↔
        ∃ pattern ∈ patterns, Glob pattern.toList input.toList) ∧
      (WildcardMatcher.accepts ⟨.rejectOnMatch, patterns⟩ input = true ↔
        ¬ ∃ pattern ∈ patterns, Glob pattern.toList input.toList) ∧
      ∀ pattern : String, ∃ parts, readExpression? (expression pattern) = some parts ∧
        (Matches parts input.toList ↔ Glob pattern.toList input.toList) := by
  have hany : (patterns.any fun pattern => covers pattern input) = true ↔
      ∃ pattern ∈ patterns, Glob pattern.toList input.toList := by
    simp only [List.any_eq_true, covers_iff_glob]
  refine ⟨hany, ?_, ?_⟩
  · rw [← hany, Bool.not_eq_true]
    simp only [WildcardMatcher.accepts, Bool.not_eq_true']
  · intro pattern
    exact ⟨_, readExpression?_expression pattern, matches_ofPattern _ _⟩

/-- Backslashes next to `*` and `?` stand for themselves. -/
example : expression "a\\*?\\" = "^a\\\\.*.\\\\$".toList := by decide

end FieldQuery.Wildcard
