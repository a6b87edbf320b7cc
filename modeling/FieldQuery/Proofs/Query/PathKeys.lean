import Mathlib
import FieldQuery.Proofs.Query.Quoting

/-!
# Reading document paths

The keys of a document path are read as their escapes are meant: a backslash makes the next
character stand for itself, and the quote that ends a key has none in front. A backslash of a name
is written as it is, so only names without one are read back.
-/

namespace FieldQuery

/-! ## Keys -/

mutual

/-- The names that the keys of a path stand for, from the dot of the first one on. -/
def readKeys? : List Char → Option (List String)
  | [] => some []
  | c :: rest =>
    if c = '.' then
      match rest with
      | [] => none
      | d :: later =>
        if d = '"' then (readKey? later).map fun (key, others) => String.ofList key :: others
        else none
    else none

/-- What is left of a key up to its closing quote, and the keys behind it. -/
def readKey? : List Char → Option (List Char × List String)
  | [] => none
  | c :: rest =>
    if c = '"' then (readKeys? rest).map fun others => ([], others)
    else if c = '\\' then
      match rest with
      | [] => none
      | d :: later => (readKey? later).map fun (key, others) => (d :: key, others)
    else (readKey? rest).map fun (key, others) => (c :: key, others)

end

variable {rest text key : List Char} {names others : List String}

theorem readKeys?_open :
    readKeys? ('.' :: '"' :: rest) =
      (readKey? rest).map fun (key, others) => String.ofList key :: others := by
  simp only [readKeys?, if_true]

theorem readKey?_close :
    readKey? ('"' :: rest) = (readKeys? rest).map fun others => ([], others) := by
  cases rest <;> simp only [readKey?, if_true]

theorem readKey?_escape (c : Char) :
    readKey? ('\\' :: c :: rest) = (readKey? rest).map fun (key, others) => (c :: key, others) := by
  simp only [readKey?, if_true, if_neg (show ('\\' : Char) ≠ '"' by decide)]

theorem readKey?_other {c : Char} (hquote : c ≠ '"') (hback : c ≠ '\\') :
    readKey? (c :: rest) = (readKey? rest).map fun (key, others) => (c :: key, others) := by
  cases rest <;> simp only [readKey?, if_neg hquote, if_neg hback]

/-! ## Names without a backslash -/

theorem readKey?_escapeKey {name : List Char} (h : '\\' ∉ name) (rest : List Char) :
    readKey? (escapeKey name ++ '"' :: rest) =
      (readKeys? rest).map fun others => (name, others) := by
  induction name with
  | nil => exact readKey?_close
  | cons c name ih =>
    rw [List.mem_cons, not_or] at h
    rw [escapeKey_cons, List.append_assoc]
    by_cases hc : c = '"'
    · rw [if_pos hc, List.cons_append, List.singleton_append, readKey?_escape, ih h.2, hc]
      simp [Function.comp_def]
    · rw [if_neg hc, List.singleton_append, readKey?_other hc (Ne.symm h.1), ih h.2]
      simp [Function.comp_def]

theorem readKeys?_flatMap_jsonKey (h : ∀ name ∈ names, '\\' ∉ name.toList) :
    readKeys? (names.flatMap jsonKey) = some names := by
  induction names with
  | nil => rfl
  | cons name names ih =>
    rw [List.forall_mem_cons] at h
    rw [List.flatMap_cons, jsonKey_eq, List.append_assoc, List.append_assoc, List.singleton_append,
      List.cons_append, List.singleton_append, readKeys?_open, readKey?_escapeKey h.1, ih h.2]
    simp

/-! ## The least text of a key -/

/-- Read from a path, a quote and a backslash of a name take two characters, and all else takes at
least one. -/
def leastLength (key : List Char) : Nat := key.length + key.count '"' + key.count '\\'

/-- A key has a dot and two quotes besides. -/
def leastLengths (names : List String) : Nat :=
  (names.map fun name => 3 + leastLength name.toList).sum

theorem leastLength_cons_le (c : Char) (key : List Char) :
    leastLength (c :: key) ≤ 2 + leastLength key := by
  unfold leastLength
  by_cases hquote : c = '"'
  · simp [hquote]; omega
  · by_cases hback : c = '\\'
    · simp [hback]; omega
    · simp [List.count_cons_of_ne hquote, List.count_cons_of_ne hback]; omega

theorem leastLength_cons_other {c : Char} (hquote : c ≠ '"') (hback : c ≠ '\\') (key : List Char) :
    leastLength (c :: key) = 1 + leastLength key := by
  unfold leastLength
  rw [List.count_cons_of_ne hquote, List.count_cons_of_ne hback, List.length_cons]
  omega

mutual

theorem leastLengths_le_of_readKeys? {text : List Char} {names : List String}
    (h : readKeys? text = some names) : leastLengths names ≤ text.length := by
  match text with
  | [] =>
    rw [readKeys?] at h
    obtain rfl := Option.some.inj h
    exact le_rfl
  | [c] =>
    simp only [readKeys?] at h
    split at h <;> cases h
  | c :: d :: rest =>
    simp only [readKeys?] at h
    split at h
    case isFalse => cases h
    case isTrue =>
      split at h
      case isFalse => cases h
      case isTrue =>
        obtain ⟨⟨key, others⟩, hkey, rfl⟩ := Option.map_eq_some_iff.mp h
        have hlength := leastLength_le_of_readKey? hkey
        simp only [leastLengths, List.map_cons, List.sum_cons, String.toList_ofList,
          List.length_cons] at hlength ⊢
        omega

theorem leastLength_le_of_readKey? {text key : List Char} {others : List String}
    (h : readKey? text = some (key, others)) :
    leastLength key + 1 + leastLengths others ≤ text.length := by
  match text with
  | [] => cases h
  | c :: rest =>
    by_cases hquote : c = '"'
    · rw [hquote, readKey?_close] at h
      obtain ⟨behind, hbehind, hkey⟩ := Option.map_eq_some_iff.mp h
      obtain ⟨rfl, rfl⟩ := Prod.mk.inj hkey
      have hlength := leastLengths_le_of_readKeys? hbehind
      simp only [leastLength, List.length_nil, List.count_nil, List.length_cons]
      omega
    · by_cases hback : c = '\\'
      · match rest with
        | [] =>
          rw [hback] at h
          cases h
        | d :: later =>
          rw [hback, readKey?_escape] at h
          obtain ⟨⟨key', behind⟩, hrest, hkey⟩ := Option.map_eq_some_iff.mp h
          obtain ⟨rfl, rfl⟩ := Prod.mk.inj hkey
          have hlength := leastLength_le_of_readKey? hrest
          have hcons := leastLength_cons_le d key'
          simp only [List.length_cons]
          omega
      · rw [readKey?_other hquote hback] at h
        obtain ⟨⟨key', behind⟩, hrest, hkey⟩ := Option.map_eq_some_iff.mp h
        obtain ⟨rfl, rfl⟩ := Prod.mk.inj hkey
        have hlength := leastLength_le_of_readKey? hrest
        have hcons := leastLength_cons_other hquote hback key'
        simp only [List.length_cons]
        omega

end

theorem length_escapeKey (name : List Char) :
    (escapeKey name).length = name.length + name.count '"' := by
  induction name with
  | nil => rfl
  | cons c name ih =>
    rw [escapeKey_cons, List.length_append, ih, List.length_cons]
    by_cases hc : c = '"'
    · rw [if_pos hc, hc, List.count_cons_self]
      simp only [List.length_cons, List.length_nil]
      omega
    · rw [if_neg hc, List.count_cons_of_ne hc, List.length_singleton]
      omega

/-- A path is written in the least text, but for the backslashes of its names. -/
theorem leastLengths_eq (names : List String) :
    leastLengths names =
      (names.flatMap jsonKey).length + (names.map fun name => name.toList.count '\\').sum := by
  induction names with
  | nil => rfl
  | cons name names ih =>
    unfold leastLengths at ih ⊢
    rw [List.map_cons, List.sum_cons, ih, List.flatMap_cons, List.map_cons, List.sum_cons,
      jsonKey_eq, leastLength]
    simp only [List.length_append, length_escapeKey, List.length_cons, List.length_nil]
    omega

theorem backslash_notMem_of_readKeys? (h : readKeys? (names.flatMap jsonKey) = some names) :
    ∀ name ∈ names, '\\' ∉ name.toList := by
  have hlength := leastLengths_le_of_readKeys? h
  rw [leastLengths_eq] at hlength
  have hsum : (names.map fun name => name.toList.count '\\').sum = 0 := by omega
  intro name hname
  rw [← List.count_eq_zero]
  exact List.sum_eq_zero_iff_forall_eq_nat.mp hsum _ (List.mem_map_of_mem hname)

/-! ## Members -/

/-- The member names that a literal is read as: its quoting is undone, and then the keys behind the
`$` are read. -/
def readMembers? (literal : String) : Option (List String) :=
  match readToken? '\'' literal.toList with
  | some ('$' :: keys, []) => readKeys? keys
  | _ => none

theorem readMembers?_jsonPath (member : MemberPath) :
    readMembers? (jsonPath member) = readKeys? (member.members.flatMap jsonKey) := by
  have htoken := member.quotedToken_jsonPath.reads [] (by simp)
  rw [List.append_nil] at htoken
  rw [readMembers?, htoken]
  rfl

/-- The literal of a document path is read back as the names of the member exactly if no name has a
backslash. -/
theorem members_read_back_iff_no_backslash (member : MemberPath) :
    readMembers? (jsonPath member) = some member.members ↔
      ∀ name ∈ member.members, '\\' ∉ name.toList := by
  rw [readMembers?_jsonPath]
  constructor
  · exact backslash_notMem_of_readKeys?
  · exact readKeys?_flatMap_jsonKey

/-- A backslash within a name is lost, so another member is read, and one at the end of a name keeps
the key from ending. -/
theorem backslash_name_not_read_back :
    readMembers? (jsonPath ⟨["a\\b"]⟩) = some ["ab"] ∧
      readMembers? (jsonPath ⟨["ab"]⟩) = some ["ab"] ∧
      readMembers? (jsonPath ⟨["a\\", "it's"]⟩) = none := by
  decide +kernel

end FieldQuery
