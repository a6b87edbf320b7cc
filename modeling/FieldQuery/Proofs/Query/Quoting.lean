import Mathlib
import FieldQuery.Query.Statement

/-!
# Quoted names

A name stands in a statement as one token between quotes, whatever characters it has. Document paths
are quoted twice over, and still no two of them have the same text.
-/

namespace FieldQuery

/-! ## Tokens -/

/-- Every quote of the text is written twice, and all else once. -/
inductive Doubles (quote : Char) : (text written : List Char) → Prop
  | nil : Doubles quote [] []
  | other {c : Char} {text written : List Char} (hc : c ≠ quote)
      (rest : Doubles quote text written) :
      Doubles quote (c :: text) (c :: written)
  | quote {text written : List Char} (rest : Doubles quote text written) :
      Doubles quote (quote :: text) (quote :: quote :: written)

/-- Reads on behind an opening quote: two quotes stand for one, and a single one ends the token. -/
def closeToken? (quote : Char) : List Char → Option (List Char × List Char)
  | [] => none
  | c :: rest =>
    if c = quote then
      match rest with
      | [] => some ([], [])
      | d :: later =>
        if d = quote then (closeToken? quote later).map fun (text, after) => (quote :: text, after)
        else some ([], d :: later)
    else (closeToken? quote rest).map fun (text, after) => (c :: text, after)

/-- The text of the quoted token that begins here, and what follows the token. -/
def readToken? (quote : Char) : List Char → Option (List Char × List Char)
  | [] => none
  | c :: rest => if c = quote then closeToken? quote rest else none

/-- The token stands for the text and ends where it seems to, unless more of it follows. -/
structure QuotedToken (quote : Char) (text token : List Char) : Prop where
  doubled : ∃ written, token = quote :: written ++ [quote] ∧ Doubles quote text written
  reads : ∀ after, after.head? ≠ some quote → readToken? quote (token ++ after) = some (text, after)

variable {quote : Char} {text written : List Char}

theorem doubles_replaceChar (quote : Char) (text : List Char) :
    Doubles quote text (replaceChar quote [quote, quote] text) := by
  induction text with
  | nil => exact .nil
  | cons c rest ih =>
    rw [replaceChar, List.flatMap_cons, ← replaceChar]
    by_cases hc : c = quote
    · rw [if_pos hc, hc]
      exact .quote ih
    · rw [if_neg hc]
      exact .other hc ih

theorem closeToken?_other {c : Char} (hc : c ≠ quote) (rest : List Char) :
    closeToken? quote (c :: rest) =
      (closeToken? quote rest).map fun (text, after) => (c :: text, after) := by
  cases rest <;> simp only [closeToken?, if_neg hc]

theorem closeToken?_quotes (rest : List Char) :
    closeToken? quote (quote :: quote :: rest) =
      (closeToken? quote rest).map fun (text, after) => (quote :: text, after) := by
  simp only [closeToken?, if_true]

theorem closeToken?_end {after : List Char} (hafter : after.head? ≠ some quote) :
    closeToken? quote (quote :: after) = some ([], after) := by
  cases after with
  | nil => simp only [closeToken?, if_true]
  | cons c later =>
    have hc : c ≠ quote := by simpa using hafter
    simp only [closeToken?, if_true, if_neg hc]

theorem closeToken?_of_doubles (h : Doubles quote text written) {after : List Char}
    (hafter : after.head? ≠ some quote) :
    closeToken? quote (written ++ quote :: after) = some (text, after) := by
  induction h with
  | nil => exact closeToken?_end hafter
  | other hc _ ih => rw [List.cons_append, closeToken?_other hc, ih, Option.map_some]
  | quote _ ih => rw [List.cons_append, List.cons_append, closeToken?_quotes, ih, Option.map_some]

theorem quotedToken (quote : Char) (text : List Char) :
    QuotedToken quote text (quote :: replaceChar quote [quote, quote] text ++ [quote]) where
  doubled := ⟨_, rfl, doubles_replaceChar quote text⟩
  reads after hafter := by
    rw [List.append_assoc, List.singleton_append, List.cons_append, readToken?, if_pos rfl]
    exact closeToken?_of_doubles (doubles_replaceChar quote text) hafter

/-- A token is the token of one text only. -/
theorem QuotedToken.text_unique {other token : List Char} (h : QuotedToken quote text token)
    (h' : QuotedToken quote other token) : text = other := by
  have hread := h.reads [] (by simp)
  rw [h'.reads [] (by simp)] at hread
  exact (congrArg Prod.fst (Option.some.inj hread)).symm

/-! ## Keys of a document path -/

/-- A name as it stands between the quotes of a key. -/
def escapeKey (name : List Char) : List Char := replaceChar '"' ['\\', '"'] name

theorem escapeKey_cons (c : Char) (rest : List Char) :
    escapeKey (c :: rest) = (if c = '"' then ['\\', '"'] else [c]) ++ escapeKey rest := rfl

/-- Within a key every quote stands behind a backslash. -/
theorem backslash_of_escapeKey {name before after : List Char}
    (h : escapeKey name = before ++ '"' :: after) : before.getLast? = some '\\' := by
  induction name generalizing before with
  | nil => cases before <;> cases h
  | cons c rest ih =>
    rw [escapeKey_cons] at h
    by_cases hc : c = '"'
    · rw [if_pos hc, List.cons_append, List.singleton_append] at h
      match before with
      | [] => simp at h
      | [b] =>
        simp only [List.cons_append, List.nil_append, List.cons.injEq] at h
        rw [← h.1]
        rfl
      | b :: c :: others =>
        simp only [List.cons_append, List.cons.injEq] at h
        simp [List.getLast?_cons, ih h.2.2]
    · rw [if_neg hc, List.singleton_append] at h
      cases before with
      | nil =>
        simp only [List.nil_append, List.cons.injEq] at h
        exact absurd h.1 hc
      | cons b others =>
        simp only [List.cons_append, List.cons.injEq] at h
        simp [List.getLast?_cons, ih h.2]

theorem escapeKey_ne_quote (name after : List Char) : escapeKey name ≠ '"' :: after := by
  intro h
  rw [← List.nil_append ('"' :: after)] at h
  cases backslash_of_escapeKey h

theorem escapeKey_injective {name other : List Char} (h : escapeKey name = escapeKey other) :
    name = other := by
  induction name generalizing other with
  | nil =>
    cases other with
    | nil => rfl
    | cons d more =>
      rw [escapeKey_cons] at h
      split at h <;> cases h
  | cons c rest ih =>
    cases other with
    | nil =>
      rw [escapeKey_cons] at h
      split at h <;> cases h
    | cons d more =>
      -- A backslash that a quote has got is no backslash of the name: a quote follows it.
      rw [escapeKey_cons, escapeKey_cons] at h
      by_cases hc : c = '"' <;> by_cases hd : d = '"'
      all_goals simp only [hc, hd, if_true, if_false, List.cons_append, List.nil_append,
        List.cons.injEq] at h
      · rw [hc, hd, ih h.2.2]
      · exact absurd h.2.symm (escapeKey_ne_quote _ _)
      · exact absurd h.2 (escapeKey_ne_quote _ _)
      · rw [h.1, ih h.2]

/-- The quote that opens a key stands behind a dot, so it is not within another key. -/
theorem eq_nil_of_key_within {before other within name rest : List Char}
    (hkey : escapeKey name = within ++ rest)
    (hopen : before ++ ['.', '"'] = other ++ within) : within = [] := by
  rcases List.eq_nil_or_concat within with rfl | ⟨init, last, rfl⟩
  · rfl
  · have hends : (before ++ ['.']) ++ ['"'] = (other ++ init) ++ [last] := by
      simpa [List.append_assoc] using hopen
    obtain ⟨hinit, hlast⟩ := List.append_inj' hends rfl
    obtain rfl : '"' = last := List.singleton_injective hlast
    rw [List.concat_eq_append, List.append_assoc, List.singleton_append] at hkey
    have hback := backslash_of_escapeKey hkey
    have hdot := congrArg List.getLast? hinit
    rw [List.getLast?_append, List.getLast?_append, hback] at hdot
    cases hdot

theorem jsonKey_eq (name : String) :
    jsonKey name = ['.', '"'] ++ escapeKey name.toList ++ ['"'] := rfl

/-- The last key of a path and what stands before it can be told from the text. -/
theorem append_jsonKey_inj {before before' : List Char} {name name' : String}
    (h : before ++ jsonKey name = before' ++ jsonKey name') : before = before' ∧ name = name' := by
  rw [jsonKey_eq, jsonKey_eq, ← List.append_assoc, ← List.append_assoc, ← List.append_assoc,
    ← List.append_assoc] at h
  have hkeys := (List.append_inj' h rfl).1
  have hsame : before ++ ['.', '"'] = before' ++ ['.', '"'] ∧
      escapeKey name.toList = escapeKey name'.toList := by
    rcases List.append_eq_append_iff.mp hkeys with
      ⟨within, hopen, hkey⟩ | ⟨within, hopen, hkey⟩
    · obtain rfl := eq_nil_of_key_within hkey hopen
      exact ⟨by simpa using hopen.symm, by simpa using hkey⟩
    · obtain rfl := eq_nil_of_key_within hkey hopen
      exact ⟨by simpa using hopen, by simpa using hkey.symm⟩
  exact ⟨List.append_cancel_right hsame.1, String.toList_injective (escapeKey_injective hsame.2)⟩

theorem flatMap_jsonKey_injective {names others : List String}
    (h : names.flatMap jsonKey = others.flatMap jsonKey) : names = others := by
  have hconcat (names : List String) (name : String) :
      (names ++ [name]).flatMap jsonKey = names.flatMap jsonKey ++ jsonKey name := by
    simp
  have hne (before : List Char) (name : String) : before ++ jsonKey name ≠ [] := by
    simp [jsonKey]
  induction names using List.reverseRecOn generalizing others with
  | nil =>
    rcases List.eq_nil_or_concat others with rfl | ⟨init, last, rfl⟩
    · rfl
    · rw [List.concat_eq_append, hconcat] at h
      exact absurd h.symm (hne _ _)
  | append_singleton names name ih =>
    rcases List.eq_nil_or_concat others with rfl | ⟨init, last, rfl⟩
    · rw [hconcat] at h
      exact absurd h (hne _ _)
    · rw [List.concat_eq_append] at h ⊢
      rw [hconcat, hconcat] at h
      obtain ⟨hbefore, rfl⟩ := append_jsonKey_inj h
      rw [ih hbefore]

/-! ## Names in a statement -/

namespace MemberPath

/-- The document path of a member, before it is made a literal. -/
def documentPath (member : MemberPath) : List Char := '$' :: member.members.flatMap jsonKey

theorem quotedToken_jsonPath (member : MemberPath) :
    QuotedToken '\'' member.documentPath (jsonPath member).toList := by
  rw [jsonPath, String.toList_ofList]
  exact quotedToken '\'' member.documentPath

theorem documentPath_injective {member other : MemberPath}
    (h : member.documentPath = other.documentPath) : member = other := by
  have hkeys := flatMap_jsonKey_injective (List.cons.inj h).2
  cases member
  cases other
  exact congrArg MemberPath.mk hkeys

end MemberPath

/-- A name is one token between double quotes, and the document path of a member one between single
quotes. Reading a token gives the name or the path back, and different members have different
paths. -/
theorem names_stay_in_tokens :
    (∀ name : String, QuotedToken '"' name.toList (quoteIdentifier name).toList) ∧
      (∀ member : MemberPath,
        QuotedToken '\'' member.documentPath (jsonPath member).toList) ∧
      ∀ member other : MemberPath, jsonPath member = jsonPath other → member = other := by
  refine ⟨?_, MemberPath.quotedToken_jsonPath, ?_⟩
  · intro name
    rw [quoteIdentifier, String.toList_ofList]
    exact quotedToken '"' name.toList
  · intro member other h
    have hmember := member.quotedToken_jsonPath
    rw [h] at hmember
    exact MemberPath.documentPath_injective (hmember.text_unique other.quotedToken_jsonPath)

/-- A backslash at the end of a name seems to escape the quote that ends the key. -/
theorem backslash_name_stays_in_token :
    readToken? '"' ((quoteIdentifier "do\"c").toList ++ [',']) = some ("do\"c".toList, [',']) ∧
      readToken? '\'' ((jsonPath ⟨["a\\", "it's"]⟩).toList ++ [')']) =
        some ("$.\"a\\\".\"it's\"".toList, [')']) ∧
      MemberPath.ofSegments [.ofPath "Room.Number"] =
        MemberPath.ofSegments [.ofPath "Room", .ofPath "Number"] ∧
      jsonPath ⟨["a\\", ".", "b"]⟩ ≠ jsonPath ⟨["a\".", ".", "b"]⟩ := by
  obtain ⟨hname, hpath, hinjective⟩ := names_stay_in_tokens
  refine ⟨(hname _).reads _ (by decide), (hpath _).reads _ (by decide),
    hinjective _ _ (by decide +kernel), ?_⟩
  intro h
  exact absurd (hinjective _ _ h) (by decide)

end FieldQuery
