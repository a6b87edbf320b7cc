import Mathlib
import FieldQuery.Proofs.Argument.History
import FieldQuery.Proofs.Compose.Faults
import FieldQuery.Proofs.Compose.Lookups
import FieldQuery.Proofs.Text.Digits

/-!
# Pages of a result

The pages of one size tile the rows of the same request without a page: every row is on one page,
and the pages in order are all rows in order.
-/

namespace FieldQuery

/-! ## Counts -/

namespace Compose

/-- The values that stand for a count: the number itself, or its digits. -/
inductive IsCount (n : Nat) : Literal → Prop
  | number (lower upper) : IsCount n (.number (.integer n lower upper))
  | digits : IsCount n (.string (toString n))

variable {n : Nat} {value : Literal}

theorem IsCount.isNull (h : IsCount n value) : value.isNull = false := by
  cases h <;> rfl

theorem shownValue_of_isCount (h : IsCount n value) : shownValue value = toString n := by
  cases h <;> rfl

theorem rowCount?_of_isCount (h : IsCount n value) :
    rowCount? value = if n ≤ maxRows then some n else none := by
  cases h with
  | number lower upper => simp [rowCount?, Number.toNat?, Option.filter_some]
  | digits =>
    rw [rowCount?, Text.trimBlanks_toString, Text.readNat?_toString]
    simp only [Nat.lt_succ_iff]

theorem rowCount_of_isCount (h : IsCount n value) (argument : String) :
    rowCount argument value =
      if n ≤ maxRows then .ok n else .error (.invalidPagingValue argument (toString n)) := by
  rw [rowCount, rowCount?_of_isCount h, shownValue_of_isCount h]
  by_cases hn : n ≤ maxRows
  · rw [if_pos hn, if_pos hn]
  · rw [if_neg hn, if_neg hn]

end Compose

/-! ## A request for a page -/

/-- The first paging arguments of the list, under names that no other argument has in any case. -/
structure ArgumentList.PagedBy (l : ArgumentList) (page size : Descriptor) : Prop where
  firstPage : l.firstOf? .page = some page
  firstSize : l.firstOf? .pageSize = some size
  distinct : Text.toLower page.name ≠ Text.toLower size.name
  others : ∀ d ∈ l.descriptors, d ≠ page → d ≠ size →
    Text.toLower d.name ≠ Text.toLower page.name ∧ Text.toLower d.name ≠ Text.toLower size.name

namespace RequestArguments

/-- The same request, for one page. -/
def forPage (r : RequestArguments) (page size : Descriptor) (index count : Literal) :
    RequestArguments :=
  (r.insert page.name index).insert size.name count

theorem get?_forPage_size (r : RequestArguments) (page size : Descriptor) (index count : Literal) :
    (r.forPage page size index count).get? size.name = some count := by
  rw [forPage, get?_insert_self]

end RequestArguments

namespace ArgumentList.PagedBy

variable {l : ArgumentList} {page size : Descriptor} {r : RequestArguments}
  {index count : Literal}

theorem get?_page (h : l.PagedBy page size) :
    (r.forPage page size index count).get? page.name = some index := by
  rw [RequestArguments.forPage, RequestArguments.get?_insert_other h.distinct,
    RequestArguments.get?_insert_self]

theorem get?_other (h : l.PagedBy page size) {d : Descriptor} (hd : d ∈ l.descriptors)
    (hother : d.isPaging = false) (r : RequestArguments) (index count : Literal) :
    (r.forPage page size index count).get? d.name = r.get? d.name := by
  have hpage : d ≠ page := by
    rintro rfl
    rw [Descriptor.isPaging, kind_of_firstOf? h.firstPage] at hother
    cases hother
  have hsize : d ≠ size := by
    rintro rfl
    rw [Descriptor.isPaging, kind_of_firstOf? h.firstSize] at hother
    cases hother
  obtain ⟨hnamePage, hnameSize⟩ := h.others d hd hpage hsize
  rw [RequestArguments.forPage, RequestArguments.get?_insert_other hnameSize,
    RequestArguments.get?_insert_other hnamePage]

end ArgumentList.PagedBy

namespace Compose

variable {l : ArgumentList} {page size : Descriptor} {r : RequestArguments}
  {index count : Literal}

theorem filter?_forPage (h : l.PagedBy page size) :
    filter? l (r.forPage page size index count) = filter? l r := by
  apply filter?_eq_of_supplied
  intro a ha
  obtain ⟨d, hd, hfilter⟩ := List.mem_filterMap.mp ha
  obtain ⟨role, description⟩ := d
  cases role with
  | filter b =>
    cases hfilter
    exact RequestArguments.supplied?_congr (h.get?_other hd rfl r index count)
  | orderBy | page | pageSize => cases hfilter

theorem orderBy_forPage (h : l.PagedBy page size) :
    orderBy l (r.forPage page size index count) = orderBy l r := by
  refine orderBy_eq_of_get? fun d hd => ?_
  have hother : d.isPaging = false := by
    rw [Descriptor.isPaging, ArgumentList.kind_of_firstOf? hd]
    rfl
  exact h.get?_other (ArgumentList.mem_of_firstOf? hd) hother r index count

/-- Of a request for a page, all but the page is planned as without it. -/
theorem plan_forPage (h : l.PagedBy page size) {p : QueryPlan} (hp : plan l r = .ok p) :
    plan l (r.forPage page size index count) =
      (paging? l (r.forPage page size index count)).map fun paging => { p with paging } := by
  obtain ⟨hfilter, horder, -⟩ := plan_ok hp
  rw [plan, filter?_forPage h, orderBy_forPage h, hfilter, horder]
  cases paging? l (r.forPage page size index count) <;> rfl

theorem paging?_forPage (h : l.PagedBy page size) (hindex : index.isNull = false)
    (hcount : count.isNull = false) :
    paging? l (r.forPage page size index count) = (do
      let p ← rowCount page.name index
      let n ← rowCount size.name count
      if p * n ≤ maxRows then return some ⟨p * n, n⟩
      else throw (.pagingOverflow page.name size.name)) := by
  rw [paging?, h.firstPage, h.firstSize]
  simp only [RequestArguments.supplied?_of_get? h.get?_page hindex,
    RequestArguments.supplied?_of_get? (r.get?_forPage_size page size index count) hcount]

theorem paging?_unsupplied (h : l.PagedBy page size) (hpage : r.supplied? page.name = none)
    (hsize : r.supplied? size.name = none) : paging? l r = .ok none := by
  rw [paging?, h.firstPage, h.firstSize]
  simp only [hpage, hsize]

/-- How a request for page `i` of size `n` is planned. -/
theorem plan_page (h : l.PagedBy page size) {p : QueryPlan} (hp : plan l r = .ok p) {i n : Nat}
    (hindex : IsCount i index) (hcount : IsCount n count) (hn : n ≤ maxRows) :
    plan l (r.forPage page size index count) =
      if i ≤ maxRows then
        if i * n ≤ maxRows then .ok { p with paging := some ⟨i * n, n⟩ }
        else .error (.pagingOverflow page.name size.name)
      else .error (.invalidPagingValue page.name (toString i)) := by
  rw [plan_forPage h hp, paging?_forPage h hindex.isNull hcount.isNull,
    rowCount_of_isCount hindex, rowCount_of_isCount hcount, if_pos hn]
  by_cases hi : i ≤ maxRows
  · rw [if_pos hi, if_pos hi]
    simp only [bind, Except.bind]
    split <;> rfl
  · rw [if_neg hi, if_neg hi]
    rfl

end Compose

/-! ## The rows of a page -/

theorem QueryPlan.steps_paged {p : QueryPlan} (h : p.paging = none) (skip take : Nat) :
    { p with paging := some ⟨skip, take⟩ }.steps = p.steps ++ [.skip skip, .take take] := by
  rw [steps, steps, h, List.append_nil]

namespace MemoryQuery

variable {α : Type}

theorem foldl_apply (steps : List Step) (q : MemoryQuery α) :
    steps.foldl Queryable.apply q = { q with steps := q.steps ++ steps } := by
  induction steps generalizing q with
  | nil => simp
  | cons step rest ih =>
    rw [List.foldl_cons, ih]
    simp [Queryable.apply]

theorem apply_paged {p : QueryPlan} (h : p.paging = none) (skip take : Nat)
    (source : MemoryQuery α) :
    { p with paging := some ⟨skip, take⟩ }.apply source =
      { p.apply source with steps := (p.apply source).steps ++ [.skip skip, .take take] } := by
  rw [QueryPlan.apply, QueryPlan.apply, QueryPlan.steps_paged h, List.foldl_append]
  exact foldl_apply _ _

theorem toList_append {q : MemoryQuery α} {rows : List α} (h : q.toList = .ok rows)
    (skip take : Nat) :
    ({ q with steps := q.steps ++ [.skip skip, .take take] } : MemoryQuery α).toList =
      .ok ((rows.drop skip).take take) := by
  rw [toList_eq, map_eq_ok] at h
  obtain ⟨left, hleft, rfl⟩ := h
  have hpage : runSteps [.skip skip, .take take] left = .ok ((left.drop skip).take take) := rfl
  rw [toList_eq, rows_append, hleft]
  change (runSteps [.skip skip, .take take] left).map _ = _
  rw [hpage, Except.map, List.map_take, List.map_drop]

end MemoryQuery

namespace Compose

variable {α : Type}

/-- The rows at positions `p * n` up to `p * n + n`, as far as there are any. -/
def pageOf (n : Nat) (rows : List α) (p : Nat) : List α :=
  rows.extract (p * n) (min (p * n + n) rows.length)

theorem pageOf_eq (n : Nat) (rows : List α) (p : Nat) :
    pageOf n rows p = (rows.drop (p * n)).take n := by
  rw [pageOf, List.extract_eq_take_drop, List.take_eq_take_iff, List.length_drop]
  omega

theorem getElem?_pageOf (n : Nat) (rows : List α) (p k : Nat) :
    (pageOf n rows p)[k]? = if k < n then rows[p * n + k]? else none := by
  rw [pageOf_eq, List.getElem?_take, List.getElem?_drop]

theorem flatMap_pageOf (n : Nat) (rows : List α) (count : Nat) :
    (List.range count).flatMap (pageOf n rows) = rows.take (count * n) := by
  induction count with
  | zero => simp
  | succ count ih =>
    rw [List.range_succ, List.flatMap_append, ih, List.flatMap_singleton, pageOf_eq, Nat.succ_mul,
      List.take_add]

variable {n : Nat} {rows : List α}

theorem skip_lt_length (hn : 1 ≤ n) {length p : Nat} (hp : p < length ⌈/⌉ n) : p * n < length := by
  by_contra hle
  have hceil : length ⌈/⌉ n ≤ p := by
    rw [ceilDiv_le_iff_le_smul hn, smul_eq_mul, Nat.mul_comm]
    exact Nat.not_lt.mp hle
  omega

theorem length_le_ceilDiv_mul (hn : 1 ≤ n) (length : Nat) : length ≤ length ⌈/⌉ n * n := by
  calc
    length ≤ n • (length ⌈/⌉ n) := le_smul_ceilDiv hn
    _ = length ⌈/⌉ n * n := by rw [smul_eq_mul, Nat.mul_comm]

theorem flatMap_pageOf_ceilDiv (hn : 1 ≤ n) :
    (List.range (rows.length ⌈/⌉ n)).flatMap (pageOf n rows) = rows := by
  rw [flatMap_pageOf, List.take_of_length_le (length_le_ceilDiv_mul hn rows.length)]

theorem pageOf_eq_nil (hn : 1 ≤ n) {p : Nat} (hp : rows.length ⌈/⌉ n ≤ p) :
    pageOf n rows p = [] := by
  have hlength : rows.length ≤ p * n :=
    (length_le_ceilDiv_mul hn rows.length).trans (Nat.mul_le_mul_right n hp)
  rw [pageOf_eq, List.drop_of_length_le hlength, List.take_nil]

theorem existsUnique_page (hn : 1 ≤ n) {i : Nat} (hi : i < rows.length) :
    ∃! p, p * n ≤ i ∧ (pageOf n rows p)[i - p * n]? = some rows[i] := by
  refine ⟨i / n, ⟨Nat.div_mul_le_self i n, ?_⟩, ?_⟩
  · have hpart : i / n * n + i % n = i := Nat.div_add_mod' i n
    have hrest : i - i / n * n = i % n := by omega
    rw [getElem?_pageOf, hrest, if_pos (Nat.mod_lt i hn), hpart, List.getElem?_eq_getElem hi]
  · rintro p ⟨hle, hrow⟩
    rw [getElem?_pageOf] at hrow
    split at hrow
    · rename_i hlt
      exact (Nat.div_eq_of_lt_le hle (by rw [Nat.succ_mul]; omega)).symm
    · cases hrow

/-- Pages of size `n` tile the rows of a request without a page. A request for a page is refused
only if a database could not skip as many rows, and no page with a row skips all of them. -/
theorem pages_tile_rows {l : ArgumentList} {page size : Descriptor} (h : l.PagedBy page size)
    {r : RequestArguments} (hpage : r.supplied? page.name = none)
    (hsize : r.supplied? size.name = none) {plain : QueryPlan} (hplain : plan l r = .ok plain)
    {source : MemoryQuery α} (hrows : (plain.apply source).toList = .ok rows) (hn : 1 ≤ n)
    (hmax : n ≤ maxRows) {count : Literal} (hcount : IsCount n count) :
    (∀ p index, IsCount p index →
      let request := r.forPage page size index count
      (p * n ≤ maxRows → ∃ q, tryBuild source l request = .ok q ∧
        q.toList = .ok (pageOf n rows p)) ∧
      (p ≤ maxRows → maxRows < p * n →
        plan l request = .error (.pagingOverflow page.name size.name)) ∧
      (maxRows < p → plan l request = .error (.invalidPagingValue page.name (toString p)))) ∧
    (∀ p, p < rows.length ⌈/⌉ n → p * n < rows.length) ∧
    (List.range (rows.length ⌈/⌉ n)).flatMap (pageOf n rows) = rows ∧
    (∀ i (hi : i < rows.length), ∃! p, p * n ≤ i ∧ (pageOf n rows p)[i - p * n]? = some rows[i]) ∧
    ∀ p, rows.length ⌈/⌉ n ≤ p → pageOf n rows p = [] := by
  refine ⟨?_, fun p hp => skip_lt_length hn hp, flatMap_pageOf_ceilDiv hn,
    fun i hi => existsUnique_page hn hi, fun p hp => pageOf_eq_nil hn hp⟩
  intro p index hindex request
  have hplan := plan_page h hplain hindex hcount hmax
  refine ⟨?_, ?_, ?_⟩
  · intro hskip
    have hp : p ≤ maxRows := (Nat.le_mul_of_pos_right p hn).trans hskip
    rw [if_pos hp, if_pos hskip] at hplan
    refine ⟨_, by rw [tryBuild, hplan]; rfl, ?_⟩
    have hnone : plain.paging = none :=
      Except.ok.inj ((plan_ok hplain).2.2.symm.trans (paging?_unsupplied h hpage hsize))
    rw [MemoryQuery.apply_paged hnone, MemoryQuery.toList_append hrows, pageOf_eq]
  · intro hp hskip
    rw [hplan, if_pos hp, if_neg (Nat.not_le.mpr hskip)]
  · intro hp
    rw [hplan, if_neg (Nat.not_le.mpr hp)]

/-! ### Stays of Ann's, two a page -/

theorem pagedStays_pagedBy : pagedStays.PagedBy (.page "Page") (.pageSize "PageSize") where
  firstPage := rfl
  firstSize := rfl
  distinct := by decide +kernel
  others := by decide +kernel

/-- A stay by its guest and day. -/
def stayOf : String × String → Json
  | (guest, day) =>
    .object
      [("Checkin", .object [("Date", .string day)]),
        ("Rooms", .array [.object [("Guests", .array [.object [("Name", .string guest)]])]])]

def stays : MemoryQuery (String × String) :=
  .ofList [("Ann", "2019-02-01"), ("Bo", "2019-02-04"), ("Ann", "2019-02-05"),
    ("Ann", "2019-02-03")] fun stay => .ok (stayOf stay)

def annsByDay : RequestArguments :=
  ⟨[("guest", .string "Ann"), ("orderby", .string "day desc")]⟩

def annsByDayPlan : QueryPlan where
  filter := some
    ⟨.any ⟨["Rooms"]⟩ false (.any ⟨["Guests"]⟩ false (.compare ⟨⟨["Name"]⟩, .eq, 0, false⟩)),
      [.string "Ann"]⟩
  orderBy := [⟨⟨["Checkin", "Date"]⟩, .descending⟩]
  paging := none

theorem annsByDay_plan : plan pagedStays annsByDay = .ok annsByDayPlan :=
  plan_of_parts (by rfl) (by decide +kernel) (by rfl)

theorem second_page_of_anns :
    let page := fun index =>
      annsByDay.forPage (.page "Page") (.pageSize "PageSize") index (.string "2")
    (annsByDayPlan.apply stays).toList =
        .ok [("Ann", "2019-02-05"), ("Ann", "2019-02-03"), ("Ann", "2019-02-01")] ∧
      (∃ q, tryBuild stays pagedStays (page (.number (.ofInt64 1))) = .ok q ∧
        q.toList = .ok [("Ann", "2019-02-01")]) ∧
      plan pagedStays (page (.string "4611686018427387904")) =
        .error (.pagingOverflow "Page" "PageSize") ∧
      plan pagedStays (page (.string "9223372036854775808")) =
        .error (.invalidPagingValue "Page" "9223372036854775808") := by
  intro page
  have hrows : (annsByDayPlan.apply stays).toList =
      .ok [("Ann", "2019-02-05"), ("Ann", "2019-02-03"), ("Ann", "2019-02-01")] := by cbv
  have htile := (pages_tile_rows pagedStays_pagedBy (by rfl) (by rfl) annsByDay_plan hrows
    (by decide) (by decide) (.digits : IsCount 2 (.string "2"))).1
  exact ⟨hrows, (htile 1 _ (.number _ _)).1 (by decide),
    (htile 4611686018427387904 _ .digits).2.1 (by decide) (by decide),
    (htile 9223372036854775808 _ .digits).2.2 (by decide)⟩

/-- A page that is itself no row count is invalid before anything can overflow. -/
theorem page_beyond_counts_invalid :
    let arguments := (ArgumentList.empty .default).supportPaging
    let request := RequestArguments.empty.forPage (.page "Page") (.pageSize "PageSize")
      (.number (.integer 9223372036854775808 (by decide) (by decide))) (.number (.ofInt64 1))
    arguments.PagedBy (.page "Page") (.pageSize "PageSize") ∧
      plan arguments .empty = .ok ⟨none, [], none⟩ ∧
      maxRows < 9223372036854775808 * 1 ∧
      plan arguments request = .error (.invalidPagingValue "Page" "9223372036854775808") ∧
      plan arguments request ≠ .error (.pagingOverflow "Page" "PageSize") := by
  intro arguments request
  have hpaged : arguments.PagedBy (.page "Page") (.pageSize "PageSize") :=
    ⟨rfl, rfl, by decide +kernel, by decide +kernel⟩
  have hplain : plan arguments .empty = .ok ⟨none, [], none⟩ := rfl
  have hplan : plan arguments request = .error (.invalidPagingValue "Page" "9223372036854775808") :=
    plan_page (i := 9223372036854775808) (n := 1) hpaged hplain (.number _ _) (.number _ _)
      (by decide)
  refine ⟨hpaged, hplain, by decide, hplan, ?_⟩
  rw [hplan]
  simp

end Compose

end FieldQuery
