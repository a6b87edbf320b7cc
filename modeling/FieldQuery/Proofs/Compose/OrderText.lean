import Mathlib
import FieldQuery.Proofs.Compose.OrderGrammar
import FieldQuery.Proofs.Text.LowerCase

/-!
# Orders written as text

A row of fields with their directions is written in any case, with anything but word characters
between the words. It is read from this text as it was, direction by direction.
-/

namespace FieldQuery

namespace Compose

/-! ## Written words -/

/-- Each word with a gap behind it, which is not empty unless the word is the last. -/
inductive Spaced : List String → List Char → Prop
  | last {word : String} {gap : List Char} (hgap : IsGap gap) : Spaced [word] (word.toList ++ gap)
  | cons {word : String} {gap rest : List Char} {ws : List String} (hgap : IsGap gap)
      (ne_nil : gap ≠ []) (later : Spaced ws rest) :
      Spaced (word :: ws) (word.toList ++ (gap ++ rest))

/-- A filter with a single value behind it and a path that an order can name it by. -/
structure Orderable (arguments : ArgumentList) (d : Descriptor) (graphPath : String) : Prop where
  graphPath_eq : d.graphPath? = some graphPath
  word : IsWord graphPath.toList
  field : ¬ IsDirection graphPath
  first : arguments.FirstNamed graphPath d
  single : d.path.hasList = false

def directionWord : SortDirection → String
  | .ascending => "asc"
  | .descending => "desc"

/-- The words for a row of fields with their directions, in any ASCII case. A direction that is
ascending may be left out. -/
inductive Spells (arguments : ArgumentList) :
    List (Descriptor × SortDirection) → List String → Prop
  | nil : Spells arguments [] []
  | bare {d : Descriptor} {graphPath field : String} {pairs : List (Descriptor × SortDirection)}
      {ws : List String} (orderable : Orderable arguments d graphPath)
      (cased : Text.eqAsciiCase graphPath field = true) (later : Spells arguments pairs ws) :
      Spells arguments ((d, .ascending) :: pairs) (field :: ws)
  | directed {d : Descriptor} {graphPath field word : String} {direction : SortDirection}
      {pairs : List (Descriptor × SortDirection)} {ws : List String}
      (orderable : Orderable arguments d graphPath)
      (cased : Text.eqAsciiCase graphPath field = true)
      (direction_cased : Text.eqAsciiCase (directionWord direction) word = true)
      (later : Spells arguments pairs ws) :
      Spells arguments ((d, direction) :: pairs) (field :: word :: ws)

/-- The words for the fields, with gaps between them and perhaps at the ends. -/
inductive IsWritten (arguments : ArgumentList) (pairs : List (Descriptor × SortDirection)) :
    List Char → Prop
  | intro {gap body : List Char} {ws : List String} (spelled : Spells arguments pairs ws)
      (hgap : IsGap gap) (spaced : Spaced ws body) : IsWritten arguments pairs (gap ++ body)

/-- The key that a field with a direction asks for. -/
def keyOf (pair : Descriptor × SortDirection) : SortKey := ⟨.ofEntityPath pair.1.path, pair.2⟩

variable {arguments : ArgumentList} {argument graphPath field word : String} {d : Descriptor}
  {pairs : List (Descriptor × SortDirection)} {ws : List String} {cs gap : List Char}
  {direction : SortDirection}

/-! ## Case -/

theorem isWordChar_toLower : ∀ c : Char, isWordChar c.toLower = isWordChar c :=
  Text.apply_toLower isWordChar (by decide +kernel)

theorem isWord_of_eqAsciiCase (h : Text.eqAsciiCase graphPath field = true)
    (hword : IsWord graphPath.toList) : IsWord field.toList := by
  have hsame := Text.eqAsciiCase_iff.mp h
  constructor
  · intro hnil
    rw [hnil, List.map_nil, List.map_eq_nil_iff] at hsame
    exact hword.ne_nil hsame
  · intro c hc
    have hlower : c.toLower ∈ graphPath.toList.map Char.toLower := hsame ▸ List.mem_map_of_mem hc
    obtain ⟨b, hb, hbc⟩ := List.mem_map.mp hlower
    rw [← isWordChar_toLower, ← hbc, isWordChar_toLower]
    exact hword.chars b hb

theorem isDirection_congr (h : Text.eqAsciiCase graphPath field = true) :
    IsDirection graphPath ↔ IsDirection field := by
  unfold IsDirection
  rw [Text.eqAsciiCase_congr_left h, Text.eqAsciiCase_congr_left h]

theorem isNamed_congr (h : Text.eqAsciiCase graphPath field = true) (d : Descriptor) :
    d.IsNamed graphPath ↔ d.IsNamed field := by
  unfold Descriptor.IsNamed
  simp only [Text.eqAsciiCase_congr_right h]

theorem firstNamed_congr (h : Text.eqAsciiCase graphPath field = true) :
    arguments.FirstNamed graphPath d ↔ arguments.FirstNamed field d := by
  unfold ArgumentList.FirstNamed
  simp only [isNamed_congr h]

theorem isWord_directionWord (direction : SortDirection) :
    IsWord (directionWord direction).toList := by
  have hchars : (directionWord direction).toList.all isWordChar = true := by
    cases direction <;> decide +kernel
  exact ⟨by cases direction <;> decide, List.all_eq_true.mp hchars⟩

theorem parse?_directionWord (h : Text.eqAsciiCase (directionWord direction) word = true) :
    SortDirection.parse? word = some direction := by
  rw [Text.eqAsciiCase_comm] at h
  unfold SortDirection.parse?
  cases direction with
  | ascending => exact if_pos h
  | descending =>
    have hdesc : Text.eqAsciiCase word "desc" = true := h
    have hasc : ¬ Text.eqAsciiCase word "asc" = true := by
      intro hasc
      rw [not_desc_of_asc hasc] at hdesc
      cases hdesc
    rw [if_neg hasc, if_pos hdesc]

/-! ## Reading the words -/

theorem Spells.isWord (h : Spells arguments pairs ws) : ∀ word ∈ ws, IsWord word.toList := by
  induction h with
  | nil => exact List.forall_mem_nil _
  | bare orderable cased _ ih =>
    exact List.forall_mem_cons.mpr ⟨isWord_of_eqAsciiCase cased orderable.word, ih⟩
  | directed orderable cased direction_cased _ ih =>
    have hfield := isWord_of_eqAsciiCase cased orderable.word
    have hdirection := isWord_of_eqAsciiCase direction_cased (isWord_directionWord _)
    exact List.forall_mem_cons.mpr ⟨hfield, List.forall_mem_cons.mpr ⟨hdirection, ih⟩⟩

theorem EndsWord.of_gap (hgap : IsGap gap) (hne : gap ≠ []) (rest : List Char) :
    EndsWord (gap ++ rest) := by
  intro c hc
  rw [List.head?_append_of_ne_nil _ hne] at hc
  exact hgap c (List.mem_of_mem_head? hc)

theorem Spaced.isWords (h : Spaced ws cs) (hwords : ∀ word ∈ ws, IsWord word.toList)
    (hfront : IsGap gap) : IsWords (gap ++ cs) ws := by
  induction h generalizing gap with
  | last hgap =>
    have hword := IsWords.word hfront (hwords _ List.mem_cons_self) hgap.endsWord (.none hgap)
    rwa [String.ofList_toList] at hword
  | cons hgap ne_nil _ ih =>
    obtain ⟨hfirst, hlater⟩ := List.forall_mem_cons.mp hwords
    have hword := IsWords.word hfront hfirst (.of_gap hgap ne_nil _) (ih hlater hgap)
    rwa [String.ofList_toList] at hword

/-! ## Reading the keys -/

theorem Orderable.parse?_eq_none (h : Orderable arguments d graphPath)
    (hcased : Text.eqAsciiCase graphPath field = true) : SortDirection.parse? field = none := by
  have hfield : ¬ isDirection field = true :=
    isDirection_iff.not.mpr ((isDirection_congr hcased).not.mp h.field)
  simpa [isDirection] using hfield

theorem Orderable.sortMember_eq (h : Orderable arguments d graphPath)
    (hcased : Text.eqAsciiCase graphPath field = true) (argument : String) :
    sortMember arguments argument field = .ok (.ofEntityPath d.path) := by
  have hfirst := ArgumentList.findByGraphPath?_eq_some.mpr ((firstNamed_congr hcased).mp h.first)
  rw [sortMember, hfirst]
  exact if_neg (by simp [h.single])

/-- A row of fields starts with a field, which is no direction for what is in front of it. -/
theorem Spells.head_isField (h : Spells arguments pairs (word :: ws)) :
    SortDirection.parse? word = none := by
  cases h with
  | bare orderable cased => exact orderable.parse?_eq_none cased
  | directed orderable cased => exact orderable.parse?_eq_none cased

theorem Spells.sortKeys_eq (h : Spells arguments pairs ws) (argument : String) :
    sortKeys arguments argument ws = .ok (pairs.map keyOf) := by
  induction h with
  | nil => rfl
  | @bare d graphPath field pairs ws orderable cased later ih =>
    have hfield := orderable.parse?_eq_none cased
    have hmember := orderable.sortMember_eq cased argument
    cases ws with
    | nil =>
      cases later
      rw [sortKeys, hfield, hmember]
      rfl
    | cons next others =>
      rw [sortKeys, hfield, hmember]
      simp only [later.head_isField, ih]
      rfl
  | @directed d graphPath field word direction pairs ws orderable cased direction_cased _ ih =>
    have hfield := orderable.parse?_eq_none cased
    have hmember := orderable.sortMember_eq cased argument
    rw [sortKeys, hfield, hmember]
    simp only [parse?_directionWord direction_cased, ih]
    rfl

/-! ## Reading the text -/

/-- An order that is written out is read as it was meant, key by key. -/
theorem orderBy_written {request : RequestArguments} {value : Literal} {text : String}
    (hd : arguments.firstOf? .orderBy = some d) (hvalue : request.get? d.name = some value)
    (htext : IsOrderText value text) (hwritten : IsWritten arguments pairs text.toList) :
    orderBy arguments request = .ok (pairs.map keyOf) := by
  generalize hcs : text.toList = cs at hwritten
  obtain ⟨hspelled, hgap, hspaced⟩ := hwritten
  have hwords := hspaced.isWords hspelled.isWord hgap
  rw [← hcs] at hwords
  have hkeys := hspelled.sortKeys_eq d.name
  simp only [orderBy, hd, hvalue, orderText_ok htext, bind, Except.bind, isWords_iff.mp hwords]
  cases hspaced with
  | last => exact hkeys
  | cons => exact hkeys

/-! ### Descents by their day -/

/-- Its name starts with a direction. -/
def descent : FilterArgument where
  graphPath := "Descent"
  path := ⟨[⟨"Route", false, true⟩, ⟨"Descent", false, false⟩]⟩
  path_ne := by simp
  type := .scalar .int
  isRequired := false

def descents : ArgumentList :=
  ArgumentList.supportOrderBy (.ofDescriptors [⟨.filter descent, none⟩, ⟨.filter checkinDay, none⟩])

theorem descent_orderable : Orderable descents ⟨.filter descent, none⟩ "Descent" where
  graphPath_eq := rfl
  word := ⟨by decide, List.all_eq_true.mp (by decide +kernel)⟩
  field := isDirection_iff.not.mp (by decide)
  first := ArgumentList.findByGraphPath?_eq_some.mp (by decide +kernel)
  single := rfl

theorem day_orderable : Orderable descents ⟨.filter checkinDay, none⟩ "Day" where
  graphPath_eq := rfl
  word := ⟨by decide, List.all_eq_true.mp (by decide +kernel)⟩
  field := isDirection_iff.not.mp (by decide)
  first := ArgumentList.findByGraphPath?_eq_some.mp (by decide +kernel)
  single := rfl

/-- Each of the fields once with a direction and once without. -/
def steepestByDay : List (Descriptor × SortDirection) :=
  [(⟨.filter descent, none⟩, .descending), (⟨.filter descent, none⟩, .ascending),
    (⟨.filter checkinDay, none⟩, .ascending), (⟨.filter checkinDay, none⟩, .ascending)]

def steepestFirst : RequestArguments :=
  ⟨[("orderby", .string "(DESCENT,dEsC, descent: day; day aSc)")]⟩

theorem steepestByDay_written :
    IsWritten descents steepestByDay "(DESCENT,dEsC, descent: day; day aSc)".toList ∧
      descents.firstOf? .orderBy = some (.orderBy "OrderBy") ∧
      steepestFirst.get? "OrderBy" = some (.string "(DESCENT,dEsC, descent: day; day aSc)") ∧
      orderBy descents steepestFirst =
        .ok [⟨⟨["Route", "Descent"]⟩, .descending⟩, ⟨⟨["Route", "Descent"]⟩, .ascending⟩,
          ⟨⟨["Checkin", "Date"]⟩, .ascending⟩, ⟨⟨["Checkin", "Date"]⟩, .ascending⟩] := by
  have hspelled : Spells descents steepestByDay
      ["DESCENT", "dEsC", "descent", "day", "day", "aSc"] :=
    .directed descent_orderable (by decide) (by decide) <| .bare descent_orderable (by decide) <|
      .bare day_orderable (by decide) <| .directed day_orderable (by decide) (by decide) .nil
  have hgap (gap : List Char) (h : gap.all (!isWordChar ·) = true) : IsGap gap := by
    simpa [IsGap] using h
  have hwritten : IsWritten descents steepestByDay
      "(DESCENT,dEsC, descent: day; day aSc)".toList := by
    have hform := IsWritten.intro hspelled (hgap ['('] (by decide +kernel)) <|
      .cons (hgap [','] (by decide +kernel)) (by decide) <|
      .cons (hgap [',', ' '] (by decide +kernel)) (by decide) <|
      .cons (hgap [':', ' '] (by decide +kernel)) (by decide) <|
      .cons (hgap [';', ' '] (by decide +kernel)) (by decide) <|
      .cons (hgap [' '] (by decide +kernel)) (by decide) <|
      .last (hgap [')'] (by decide +kernel))
    convert hform using 1
    decide +kernel
  have hfirst : descents.firstOf? .orderBy = some (.orderBy "OrderBy") := by decide +kernel
  exact ⟨hwritten, hfirst, rfl, orderBy_written hfirst rfl (.string _) hwritten⟩

end Compose

end FieldQuery
