import Mathlib
import FieldQuery.Proofs.Path.Reach
import FieldQuery.Proofs.Query.Reordering

/-!
# Rows in the order of their keys

Which of two values is the lower one, which of two rows comes first, and that an order leaves the
rows in the one arrangement where no row stands behind a later one and ties stay as they were.
-/

namespace FieldQuery

/-! ## The order of values -/

namespace Json

inductive Kind where
  | null
  | boolean
  | number
  | string
  | array
  | object
  deriving DecidableEq

/-- All kinds, the lowest first. -/
def Kind.ladder : List Kind := [.null, .boolean, .number, .string, .array, .object]

def kind : Json → Kind
  | .null => .null
  | .boolean _ => .boolean
  | .number _ => .number
  | .string _ => .string
  | .array _ => .array
  | .object _ => .object

/-- The first value is the lower one: its kind is lower, or else the kind is the same and ordered. -/
inductive Below : Json → Json → Prop
  | kind {a b : Json} (lower : [a.kind, b.kind].Sublist Kind.ladder) : Below a b
  | boolean : Below (.boolean false) (.boolean true)
  | integer {i j : Int64} (lt : i.toInt < j.toInt) :
      Below (.number (.ofInt64 i)) (.number (.ofInt64 j))
  | string {s t : String} (lt : s < t) : Below (.string s) (.string t)

variable {a b : Json}

theorem sublist_ladder_iff : [a.kind, b.kind].Sublist Kind.ladder ↔ a.rank < b.rank := by
  cases a <;> cases b <;> simp only [kind, rank] <;> decide

theorem Below.order (h : Below a b) : a.order b = .lt := by
  cases h with
  | kind lower =>
    have hrank := sublist_ladder_iff.mp lower
    rw [order_of_rank_ne hrank.ne]
    exact compare_lt_iff_lt.mpr hrank
  | boolean => rfl
  | integer lt => exact (orderNumbers_ofInt64 _ _).trans (compare_lt_iff_lt.mpr lt)
  | string lt => exact compare_lt_iff_lt.mpr lt

theorem below_of_order (ha : a.Exact) (hb : b.Exact) (h : a.order b = .lt) : Below a b := by
  by_cases hrank : a.rank = b.rank
  · cases a with
    | boolean p =>
      obtain ⟨q, rfl⟩ := eq_boolean_of_rank hrank.symm
      obtain ⟨rfl, rfl⟩ := Bool.lt_iff.mp (compare_lt_iff_lt.mp h)
      exact .boolean
    | number m =>
      obtain ⟨n, rfl⟩ := eq_number_of_rank hrank.symm
      obtain ⟨i, hi⟩ := Option.isSome_iff_exists.mp ha
      obtain ⟨j, hj⟩ := Option.isSome_iff_exists.mp hb
      obtain rfl := Number.toInt64?_eq_some.mp hi
      obtain rfl := Number.toInt64?_eq_some.mp hj
      exact .integer (compare_lt_iff_lt.mp ((orderNumbers_ofInt64 i j).symm.trans h))
    | string s =>
      obtain ⟨t, rfl⟩ := eq_string_of_rank hrank.symm
      exact .string (compare_lt_iff_lt.mp h)
    | null | array | object => exact absurd hrank (compare_lt_iff_lt.mp h).ne
  · rw [order_of_rank_ne hrank] at h
    exact .kind (sublist_ladder_iff.mpr (compare_lt_iff_lt.mp h))

theorem order_eq_lt_iff (ha : a.Exact) (hb : b.Exact) : a.order b = .lt ↔ Below a b :=
  ⟨below_of_order ha hb, Below.order⟩

end Json

/-! ## The order of rows -/

namespace SortKey

/-- The value a document is sorted by; a member that is missing on the way to it counts as null. -/
def value (key : SortKey) (document : Json) : Json :=
  (document.at? key.member.members).getD .null

/-- The key puts the first document in front of the second. -/
def Puts (key : SortKey) (a b : Json) : Prop :=
  match key.direction with
  | .ascending => (key.value a).Below (key.value b)
  | .descending => (key.value b).Below (key.value a)

def Ties (key : SortKey) (a b : Json) : Prop := ¬ key.Puts a b ∧ ¬ key.Puts b a

variable {key : SortKey} {a b : Json}

theorem order_eq_lt_iff (ha : key.ExactAt a) (hb : key.ExactAt b) :
    key.order a b = .lt ↔ key.Puts a b := by
  unfold order Puts value
  simp only [← MemberPath.read_eq]
  cases key.direction with
  | ascending => exact Json.order_eq_lt_iff ha hb
  | descending => exact Json.order_eq_lt_iff hb ha

theorem order_eq_eq_iff (ha : key.ExactAt a) (hb : key.ExactAt b) :
    key.order a b = .eq ↔ key.Ties a b := by
  rw [Ties, ← order_eq_lt_iff ha hb, ← order_eq_lt_iff hb ha, order_swap key a b]
  cases key.order a b <;> decide

end SortKey

/-- The first row comes before the second: the first key that does not tie them puts it there. -/
inductive Precedes : List SortKey → Json → Json → Prop
  | first {key : SortKey} {rest : List SortKey} {a b : Json} (puts : key.Puts a b) :
      Precedes (key :: rest) a b
  | later {key : SortKey} {rest : List SortKey} {a b : Json} (ties : key.Ties a b)
      (precedes : Precedes rest a b) : Precedes (key :: rest) a b

def Tied (keys : List SortKey) (a b : Json) : Prop := ∀ key ∈ keys, key.Ties a b

variable {keys : List SortKey} {a b : Json}

theorem precedes_cons {key : SortKey} :
    Precedes (key :: keys) a b ↔ key.Puts a b ∨ key.Ties a b ∧ Precedes keys a b := by
  constructor
  · intro h
    cases h with
    | first puts => exact .inl puts
    | later ties precedes => exact .inr ⟨ties, precedes⟩
  · rintro (puts | ⟨ties, precedes⟩)
    · exact .first puts
    · exact .later ties precedes

theorem orderRows_eq_lt_iff (ha : ∀ key ∈ keys, key.ExactAt a) (hb : ∀ key ∈ keys, key.ExactAt b) :
    orderRows keys a b = .lt ↔ Precedes keys a b := by
  induction keys with
  | nil => exact ⟨fun h => (by cases h), fun h => (by cases h)⟩
  | cons key rest ih =>
    rw [List.forall_mem_cons] at ha hb
    rw [orderRows, Ordering.then_eq_lt, precedes_cons, SortKey.order_eq_lt_iff ha.1 hb.1,
      SortKey.order_eq_eq_iff ha.1 hb.1, ih ha.2 hb.2]

theorem orderRows_eq_eq_iff (ha : ∀ key ∈ keys, key.ExactAt a) (hb : ∀ key ∈ keys, key.ExactAt b) :
    orderRows keys a b = .eq ↔ Tied keys a b := by
  induction keys with
  | nil => simp [orderRows, Tied]
  | cons key rest ih =>
    rw [List.forall_mem_cons] at ha hb
    rw [orderRows, Ordering.then_eq_eq, Tied, List.forall_mem_cons, ← Tied,
      SortKey.order_eq_eq_iff ha.1 hb.1, ih ha.2 hb.2]

/-! ## Sorting with places -/

namespace InsertionSort

variable {α : Type} {order : α → α → Ordering} {xs : List α} {placed other : List (α × Nat)}

/-- The elements with their places are in order, and tied ones in the order of their places. -/
structure PlacedInOrder (order : α → α → Ordering) (xs : List α) (placed : List (α × Nat)) :
    Prop where
  perm : placed.Perm xs.zipIdx
  ascending : placed.Pairwise fun a b => order b.1 a.1 ≠ .lt
  stable : placed.Pairwise fun a b => order a.1 b.1 = .eq → a.2 < b.2

variable [Std.TransCmp order]

theorem transCmp_on {β : Type} (f : β → α) : Std.TransCmp fun a b => order (f a) (f b) where
  eq_swap := Std.OrientedCmp.eq_swap
  isLE_trans := Std.TransCmp.isLE_trans

theorem places_ascend (xs : List α) : xs.zipIdx.Pairwise fun a b => a.2 < b.2 := by
  rw [← List.pairwise_map (f := Prod.snd) (R := fun m n : Nat => m < n), List.zipIdx_map_snd]
  exact List.pairwise_lt_range' _ Nat.one_pos

/-- Sorting by the order alone leaves ties in the order of their places, in which they stand
already. -/
theorem sort_zipIdx_ascending (xs : List α) :
    (sort (fun a b => order a.1 b.1) xs.zipIdx).Pairwise fun a b =>
      (order b.1 a.1).then (compare b.2 a.2) ≠ .lt := by
  let byElement (a b : α × Nat) : Ordering := order a.1 b.1
  let byPlace (a b : α × Nat) : Ordering := compare a.2 b.2
  have hbyElement : Std.TransCmp byElement := transCmp_on Prod.fst
  have hbyPlace : Std.TransCmp byPlace := transCmp_on Prod.snd
  have hboth : Std.TransCmp fun a b => (byElement a b).then (byPlace a b) :=
    inferInstanceAs (Std.TransCmp (compareLex byElement byPlace))
  have hstill : sort byPlace xs.zipIdx = xs.zipIdx :=
    sort_of_ascending ((places_ascend xs).imp fun hab hlt => (compare_lt_iff_lt.mp hlt).asymm hab)
  have hsort : sort byElement (sort byPlace xs.zipIdx) =
      sort (fun a b => (byElement a b).then (byPlace a b)) xs.zipIdx := sort_sort _
  rw [hstill] at hsort
  change (sort byElement xs.zipIdx).Pairwise _
  rw [hsort]
  exact sort_ascending _

theorem placedInOrder_sort (xs : List α) :
    PlacedInOrder order xs (sort (fun a b => order a.1 b.1) xs.zipIdx) := by
  have hperm : (sort (fun a b => order a.1 b.1) xs.zipIdx).Perm xs.zipIdx := sort_perm _
  have hdistinct : (sort (fun a b => order a.1 b.1) xs.zipIdx).Pairwise fun a b => a.2 ≠ b.2 :=
    hperm.symm.pairwise ((places_ascend xs).imp fun hab => hab.ne) fun hab => hab.symm
  have hboth : (sort (fun a b => order a.1 b.1) xs.zipIdx).Pairwise _ := sort_zipIdx_ascending xs
  refine ⟨hperm, hboth.imp ?_, (hboth.and hdistinct).imp ?_⟩
  · intro a b hba hlt
    rw [hlt, Ordering.lt_then] at hba
    exact hba rfl
  · rintro a b ⟨hba, hne⟩ htie
    rw [Std.OrientedCmp.eq_symm htie, Ordering.eq_then] at hba
    have hle : a.2 ≤ b.2 := compare_ge_iff_ge.mp hba
    omega

theorem PlacedInOrder.unique (h : PlacedInOrder order xs placed)
    (hother : PlacedInOrder order xs other) : other = placed := by
  apply List.Perm.eq_of_pairwise _ (hother.ascending.and hother.stable)
    (h.ascending.and h.stable) (hother.perm.trans h.perm.symm)
  rintro a b - - ⟨hba, htie⟩ ⟨hab, htie'⟩
  -- Neither is less, so they are tied, and then each one's place is in front of the other's.
  have hswap : order b.1 a.1 = (order a.1 b.1).swap := Std.OrientedCmp.eq_swap
  cases hcmp : order a.1 b.1 with
  | lt => exact absurd hcmp hab
  | gt => simp [hswap, hcmp] at hba
  | eq =>
    rw [hcmp] at hswap
    exact absurd (htie hcmp) (htie' hswap).asymm

end InsertionSort

/-! ## Sorted rows -/

namespace MemoryQuery

variable {α : Type} {rows : List (Row α)} {placed : List (Row α × Nat)}

/-- The rows, each with its place before, are arranged by the keys: none stands behind one that it
precedes, and rows tied on every key stand in the order of their places. -/
structure StablyOrdered (keys : List SortKey) (rows : List (Row α))
    (placed : List (Row α × Nat)) : Prop where
  perm : placed.Perm rows.zipIdx
  ascending : placed.Pairwise fun a b => ¬ Precedes keys b.1.1 a.1.1
  stable : placed.Pairwise fun a b => Tied keys a.1.1 b.1.1 → a.2 < b.2

theorem mem_of_perm_zipIdx (hperm : placed.Perm rows.zipIdx) {row : Row α × Nat}
    (h : row ∈ placed) : row.1 ∈ rows := by
  have hrow := hperm.subset h
  rw [← List.zipIdx_map_fst 0 rows]
  exact List.mem_map_of_mem hrow

theorem placedInOrder_iff (hexact : ExactRows keys rows) :
    InsertionSort.PlacedInOrder (exactRowOrder keys) rows placed ↔
      StablyOrdered keys rows placed := by
  -- All that is placed is a row, so the order is the exact one throughout.
  have hiff (hperm : placed.Perm rows.zipIdx) :
      (placed.Pairwise (fun a b => exactRowOrder keys b.1 a.1 ≠ .lt) ↔
        placed.Pairwise fun a b => ¬ Precedes keys b.1.1 a.1.1) ∧
      (placed.Pairwise (fun a b => exactRowOrder keys a.1 b.1 = .eq → a.2 < b.2) ↔
        placed.Pairwise fun a b => Tied keys a.1.1 b.1.1 → a.2 < b.2) := by
    have hrow {row : Row α × Nat} (h : row ∈ placed) := hexact row.1 (mem_of_perm_zipIdx hperm h)
    constructor
    · refine List.Pairwise.iff_of_mem fun {a b} ha hb => ?_
      rw [exactRowOrder, ← orderRows_eq_exact (hrow hb) (hrow ha), ne_eq,
        orderRows_eq_lt_iff (hrow hb) (hrow ha)]
    · refine List.Pairwise.iff_of_mem fun {a b} ha hb => ?_
      rw [exactRowOrder, ← orderRows_eq_exact (hrow ha) (hrow hb),
        orderRows_eq_eq_iff (hrow ha) (hrow hb)]
  constructor
  · rintro ⟨hperm, hascending, hstable⟩
    exact ⟨hperm, (hiff hperm).1.mp hascending, (hiff hperm).2.mp hstable⟩
  · rintro ⟨hperm, hascending, hstable⟩
    exact ⟨hperm, (hiff hperm).1.mpr hascending, (hiff hperm).2.mpr hstable⟩

theorem sortRows_eq_placed (hexact : ExactRows keys rows) :
    sortRows keys rows =
      (InsertionSort.sort (fun a b => exactRowOrder keys a.1 b.1) rows.zipIdx).map (·.1) := by
  rw [sortRows_eq_exact hexact, ← InsertionSort.sort_map, List.zipIdx_map_fst]

open Queryable (orderBy)

/-- An order arranges the rows of a query by its keys, with ties in the order they had, and this is
the only such arrangement. Where the rows cannot be had, the order fails as the query does. -/
theorem orderBy_sorts_stably (q : MemoryQuery α) (keys : List SortKey) :
    (∀ rows, q.rows = .ok rows → ExactRows keys rows →
      ∃ placed, StablyOrdered keys rows placed ∧
        (∀ other, StablyOrdered keys rows other → other = placed) ∧
        (orderBy q keys).toList = .ok (placed.map fun row => row.1.2)) ∧
    ∀ e, q.rows = .error e → (orderBy q keys).toList = .error e := by
  constructor
  · intro rows hrows hexact
    have hplaced : InsertionSort.PlacedInOrder (exactRowOrder keys) rows _ :=
      InsertionSort.placedInOrder_sort rows
    refine ⟨_, (placedInOrder_iff hexact).mp hplaced, ?_, ?_⟩
    · intro other hother
      exact hplaced.unique ((placedInOrder_iff hexact).mpr hother)
    · rw [toList_eq, rows_orderBy, hrows]
      simp only [Except.map, sortRows_eq_placed hexact, List.map_map]
      rfl
  · intro e he
    rw [toList_eq, rows_orderBy, he]
    rfl

/-! ### Rooms by their floor and their name -/

/-- The highest floor first, and the rooms on a floor by name. -/
def topFloorFirst : List SortKey := [⟨⟨["Floor"]⟩, .descending⟩, ⟨⟨["Name"]⟩, .ascending⟩]

def namedRoom (floor name : Json) : Json := .object [("Floor", floor), ("Name", name)]

def lodge : Json := .object [("Name", .string "Lodge")]

def nowhere : Json := .object [("Floor", .null)]

/-- It has the floor and the name of another room. -/
def gardenSuite : Json :=
  .object [("Floor", .number (.ofInt64 1)), ("Name", .string "Garden"), ("Beds", .null)]

/-- Under a descending key a room without a floor comes last, and a text comes before all numbers.
Rooms alike in floor and name stay in their order. -/
theorem rooms_topFloorFirst :
    let garden := namedRoom (.number (.ofInt64 1)) (.string "Garden")
    let loft := namedRoom (.string "attic") (.string "Loft")
    let second := namedRoom (.number (.ofInt64 2)) .null
    let rooms := [gardenSuite, lodge, nowhere, loft, garden, second]
    let rows := rooms.map fun room => (room, room)
    ExactRows topFloorFirst rows ∧
      ∃ placed, StablyOrdered topFloorFirst rows placed ∧
        placed.map (fun row => row.1.2) = [loft, second, gardenSuite, garden, nowhere, lodge] := by
  intro garden loft second rooms rows
  have hexact : ExactRows topFloorFirst rows := by
    unfold ExactRows
    decide +kernel
  have hrun : (orderBy (roomsOf rooms) topFloorFirst).toList =
      .ok [loft, second, gardenSuite, garden, nowhere, lodge] := by
    cbv
  obtain ⟨placed, hplaced, -, hlist⟩ :=
    (orderBy_sorts_stably (roomsOf rooms) topFloorFirst).1 rows rfl hexact
  exact ⟨hexact, placed, hplaced, Except.ok.inj (hlist.symm.trans hrun)⟩

end MemoryQuery

end FieldQuery
