import Mathlib
import FieldQuery.Proofs.Compose.Independence
import FieldQuery.Proofs.Text.Decimal

/-!
# What a request for a page comes to

A page is skipped to by the exact product of its index and its size. Whatever is no row count, and a
product that a database could not count to, is refused with one error.
-/

namespace FieldQuery.Compose

/-! ## Row counts -/

/-- The value stands for `n` rows: it is the number, or a text for it with blanks around it. -/
inductive IsRowCount (n : Nat) : Literal → Prop
  | number (lower upper) (most : n ≤ maxRows) : IsRowCount n (.number (.integer n lower upper))
  | text {s : String} {part : List Char} (padded : Text.IsPadded part s.toList)
      (decimal : Text.IsDecimal n part) (most : n ≤ maxRows) : IsRowCount n (.string s)

variable {value : Literal} {n p : Nat}

theorem rowCount?_number_eq_some_iff {x : Number} :
    rowCount? (.number x) = some n ↔ IsRowCount n (.number x) := by
  rw [rowCount?, Option.filter_eq_some_iff, decide_eq_true_eq]
  constructor
  · rintro ⟨hx, hmost⟩
    cases x with
    | float x => cases hx
    | integer i lower upper =>
      rw [Number.toNat?] at hx
      split at hx
      case isTrue hsign =>
        obtain rfl := Option.some.inj hx
        -- The number is no other than the natural number that was read of it.
        generalize hn : i.toNat = n at hmost
        obtain rfl : i = n := by omega
        exact .number lower upper hmost
      case isFalse => cases hx
  · intro h
    cases h with
    | number lower upper hmost =>
      refine ⟨?_, hmost⟩
      rw [Number.toNat?, if_pos (Int.natCast_nonneg n), Int.toNat_natCast]

theorem rowCount?_string_eq_some_iff {s : String} :
    rowCount? (.string s) = some n ↔ IsRowCount n (.string s) := by
  rw [rowCount?, Text.readNat?_eq_some_iff, Nat.lt_succ_iff, Text.isDecimal_trimBlanks_iff]
  constructor
  · rintro ⟨hmost, part, hpadded, hdecimal⟩
    exact .text hpadded hdecimal hmost
  · intro h
    cases h with
    | text hpadded hdecimal hmost => exact ⟨hmost, _, hpadded, hdecimal⟩

theorem rowCount?_eq_some_iff : rowCount? value = some n ↔ IsRowCount n value := by
  cases value with
  | number x => exact rowCount?_number_eq_some_iff
  | string s => exact rowCount?_string_eq_some_iff
  | null | boolean | enumeration | binary | list | object => exact ⟨nofun, nofun⟩

theorem rowCount_of_isRowCount (h : IsRowCount n value) (argument : String) :
    rowCount argument value = .ok n := by
  rw [rowCount, rowCount?_eq_some_iff.mpr h]

theorem rowCount_of_forall_not (h : ∀ n, ¬ IsRowCount n value) (argument : String) :
    rowCount argument value = .error (.invalidPagingValue argument (shownValue value)) := by
  have hnone : rowCount? value = none :=
    Option.eq_none_iff_forall_ne_some.mpr fun n hn => h n (rowCount?_eq_some_iff.mp hn)
  rw [rowCount, hnone]

/-! ## Pages -/

/-- What a request comes to, by the values that it supplies for the page and for its size. -/
inductive PageAnswer (page size : String) :
    Option Literal → Option Literal → Except QueryError (Option Paging) → Prop
  | unpaged : PageAnswer page size none none (.ok none)
  | sizeMissing (index : Literal) :
      PageAnswer page size (some index) none (.error (.incompletePaging size page))
  | pageMissing (count : Literal) :
      PageAnswer page size none (some count) (.error (.incompletePaging page size))
  | pageInvalid {index : Literal} (count : Literal) (invalid : ∀ p, ¬ IsRowCount p index) :
      PageAnswer page size (some index) (some count)
        (.error (.invalidPagingValue page (shownValue index)))
  | sizeInvalid {index count : Literal} {p : Nat} (valid : IsRowCount p index)
      (invalid : ∀ n, ¬ IsRowCount n count) :
      PageAnswer page size (some index) (some count)
        (.error (.invalidPagingValue size (shownValue count)))
  | beyond {index count : Literal} {p n : Nat} (valid : IsRowCount p index)
      (valid' : IsRowCount n count) (product : maxRows < p * n) :
      PageAnswer page size (some index) (some count) (.error (.pagingOverflow page size))
  | within {index count : Literal} {p n : Nat} (valid : IsRowCount p index)
      (valid' : IsRowCount n count) (product : p * n ≤ maxRows) :
      PageAnswer page size (some index) (some count) (.ok (some ⟨p * n, n⟩))

theorem exists_pageAnswer (page size : String) (index count : Option Literal) :
    ∃ answer, PageAnswer page size index count answer := by
  cases index with
  | none =>
    cases count with
    | none => exact ⟨_, .unpaged⟩
    | some count => exact ⟨_, .pageMissing count⟩
  | some index =>
    cases count with
    | none => exact ⟨_, .sizeMissing index⟩
    | some count =>
      by_cases hpage : ∃ p, IsRowCount p index
      · obtain ⟨p, hp⟩ := hpage
        by_cases hsize : ∃ n, IsRowCount n count
        · obtain ⟨n, hn⟩ := hsize
          rcases Nat.lt_or_ge maxRows (p * n) with hproduct | hproduct
          · exact ⟨_, .beyond hp hn hproduct⟩
          · exact ⟨_, .within hp hn hproduct⟩
        · exact ⟨_, .sizeInvalid hp (not_exists.mp hsize)⟩
      · exact ⟨_, .pageInvalid count (not_exists.mp hpage)⟩

variable {l : ArgumentList} {page size : Descriptor} {r : RequestArguments}
  {answer : Except QueryError (Option Paging)}

theorem paging?_of_pageAnswer (hpage : l.firstOf? .page = some page)
    (hsize : l.firstOf? .pageSize = some size)
    (h : PageAnswer page.name size.name (r.supplied? page.name) (r.supplied? size.name) answer) :
    paging? l r = answer := by
  simp only [paging?, hpage, hsize]
  generalize r.supplied? page.name = index, r.supplied? size.name = count at h
  cases h with
  | unpaged | sizeMissing | pageMissing => rfl
  | pageInvalid count invalid =>
    simp only [rowCount_of_forall_not invalid]
    rfl
  | sizeInvalid valid invalid =>
    simp only [rowCount_of_isRowCount valid, rowCount_of_forall_not invalid]
    rfl
  | beyond valid valid' product =>
    simp only [rowCount_of_isRowCount valid, rowCount_of_isRowCount valid']
    exact if_neg (Nat.not_le.mpr product)
  | within valid valid' product =>
    simp only [rowCount_of_isRowCount valid, rowCount_of_isRowCount valid']
    exact if_pos product

/-- A list with both paging arguments answers to any values for them as stated, with one answer. -/
theorem page_is_product_or_refused (hpage : l.firstOf? .page = some page)
    (hsize : l.firstOf? .pageSize = some size) :
    paging? l r = answer ↔
      PageAnswer page.name size.name (r.supplied? page.name) (r.supplied? size.name) answer := by
  constructor
  · rintro rfl
    obtain ⟨answer, h⟩ := exists_pageAnswer page.name size.name (r.supplied? page.name)
      (r.supplied? size.name)
    rwa [paging?_of_pageAnswer hpage hsize h]
  · exact paging?_of_pageAnswer hpage hsize

/-! ### Stays on a page of three -/

def askPage (index count : Literal) : RequestArguments :=
  ⟨[("page", index), ("pagesize", count)]⟩

/-- An index between blanks, with a sign and zeros; a product of 2^64, which would be zero in 64
bits; and two values that are both no counts. -/
theorem eighth_page_of_three :
    paging? pagedStays (askPage (.string "\u3000+007\n") (.number (.ofInt64 3))) =
        .ok (some ⟨21, 3⟩) ∧
      paging? pagedStays (askPage (.string "4294967296") (.number (.ofInt64 4294967296))) =
        .error (.pagingOverflow "Page" "PageSize") ∧
      paging? pagedStays (askPage (.string "-1") (.string "")) =
        .error (.invalidPagingValue "Page" "-1") ∧
      paging? pagedStays (askPage .null (.string "3")) =
        .error (.incompletePaging "Page" "PageSize") := by
  have hpage : pagedStays.firstOf? .page = some (.page "Page") := rfl
  have hsize : pagedStays.firstOf? .pageSize = some (.pageSize "PageSize") := rfl
  have hseven : IsRowCount 7 (.string "\u3000+007\n") :=
    .text ⟨['\u3000'], ['\n'], by decide, by decide, rfl⟩ (.signed 2) (by decide)
  have hlarge : IsRowCount 4294967296 (.string "4294967296") :=
    .text ⟨[], [], by decide, by decide, rfl⟩ (.plain 0) (by decide)
  have hnegative : ∀ p, ¬ IsRowCount p (.string "-1") := by
    intro p hp
    cases (rowCount?_eq_some_iff.mpr hp : rowCount? (.string "-1") = some p)
  refine ⟨(page_is_product_or_refused hpage hsize).mpr ?_,
    (page_is_product_or_refused hpage hsize).mpr ?_,
    (page_is_product_or_refused hpage hsize).mpr ?_,
    (page_is_product_or_refused hpage hsize).mpr ?_⟩
  · exact .within hseven (.number _ _ (by decide)) (by decide)
  · exact .beyond hlarge (.number _ _ (by decide)) (by decide)
  · exact .pageInvalid _ hnegative
  · exact .pageMissing _

end FieldQuery.Compose
