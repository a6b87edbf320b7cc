import Mathlib
import FieldQuery.Proofs.Query.Preorder
import FieldQuery.Proofs.Query.Refinement

/-!
# One order after another

Over stored documents a second order takes the place of the first. In memory the rows are sorted
once more, so the first order is left among the rows that the second one does not tell apart.
-/

namespace FieldQuery

/-! ## Ties of a stable sort -/

namespace InsertionSort

variable {α β : Type} {order first : α → α → Ordering} {xs ys : List α}

/-- The order does not tell the element apart from this one. -/
def tied (order : α → α → Ordering) (x y : α) : Bool := order x y = .eq

/-- Elements that the second order ties stand as the first one wants them. -/
def TiesInOrder (first second : α → α → Ordering) (xs : List α) : Prop :=
  xs.Pairwise fun a b => second a b = .eq → first b a ≠ .lt

theorem insertFromEnd_map (f : β → α) (x : β) (ys : List β) :
    insertFromEnd order (f x) (ys.map f) =
      (insertFromEnd (fun a b => order (f a) (f b)) x ys).map f := by
  induction ys with
  | nil => rfl
  | cons y ys ih =>
    rw [List.map_cons, insertFromEnd, insertFromEnd, ih]
    split <;> rfl

theorem sort_map (f : β → α) (xs : List β) :
    sort order (xs.map f) = (sort (fun a b => order (f a) (f b)) xs).map f := by
  induction xs using List.reverseRecOn with
  | nil => rfl
  | append_singleton xs x ih =>
    rw [List.map_append, List.map_singleton, sort_concat, sort_concat, ih, ← List.map_reverse,
      insertFromEnd_map, ← List.map_reverse]

section

variable [Std.TransCmp order]

theorem tied_self (x : α) : tied order x x = true := by
  have hself : order x x = .eq := Std.ReflCmp.compare_self
  rw [tied, hself]
  rfl

/-- Two elements that are tied with a third are tied. -/
theorem eq_of_tied {x a b : α} (ha : tied order x a = true) (hb : tied order x b = true) :
    order a b = .eq :=
  Std.TransCmp.eq_trans (Std.OrientedCmp.eq_symm (of_decide_eq_true ha)) (of_decide_eq_true hb)

theorem filter_tied_sort (x : α) (xs : List α) :
    (sort order xs).filter (tied order x) = xs.filter (tied order x) := by
  rw [filter_sort]
  apply sort_of_ascending
  apply List.pairwise_of_forall_mem_list
  intro a ha b hb
  rw [eq_of_tied (List.mem_filter.mp hb).2 (List.mem_filter.mp ha).2]
  decide

theorem order_head_ne_lt {x y : α} (h : Ascending order (x :: xs)) (hy : y ∈ x :: xs) :
    order y x ≠ .lt := by
  rcases List.mem_cons.mp hy with rfl | hy
  · have hself : order y y = .eq := Std.ReflCmp.compare_self
    rw [hself]
    decide
  · exact (List.pairwise_cons.mp h).1 y hy

/-- A sorted list is settled by the order of the elements that are tied. -/
theorem eq_of_ascending (hxs : Ascending order xs) (hys : Ascending order ys) (hperm : xs.Perm ys)
    (hties : ∀ x, xs.filter (tied order x) = ys.filter (tied order x)) : xs = ys := by
  induction xs generalizing ys with
  | nil => exact hperm.nil_eq
  | cons x xs ih =>
    cases ys with
    | nil => exact absurd hperm.symm.nil_eq (by simp)
    | cons y ys =>
      -- Both heads are least, so they are tied, and each comes first of all that are.
      have hyx : order y x ≠ .lt := order_head_ne_lt hxs (hperm.symm.subset List.mem_cons_self)
      have hxy : order x y ≠ .lt := order_head_ne_lt hys (hperm.subset List.mem_cons_self)
      have htied : tied order x y = true := by
        have hswap : order y x = (order x y).swap := Std.OrientedCmp.eq_swap
        cases hcmp : order x y <;> simp_all [tied]
      have hheads := hties x
      rw [List.filter_cons_of_pos (tied_self x), List.filter_cons_of_pos htied] at hheads
      obtain rfl : x = y := (List.cons.inj hheads).1
      have htails : ∀ z, xs.filter (tied order z) = ys.filter (tied order z) := by
        intro z
        have hz := hties z
        rw [List.filter_cons, List.filter_cons] at hz
        split at hz
        · exact (List.cons.inj hz).2
        · exact hz
      rw [ih hxs.of_cons hys.of_cons hperm.cons_inv htails]

/-- Lists of the same elements are sorted alike exactly if tied elements stand alike in them. -/
theorem sort_eq_sort_iff (hperm : xs.Perm ys) :
    sort order xs = sort order ys ↔ ∀ x, xs.filter (tied order x) = ys.filter (tied order x) := by
  constructor
  · intro h x
    rw [← filter_tied_sort x xs, h, filter_tied_sort]
  · intro h
    have hsorted : (sort order xs).Perm (sort order ys) :=
      (sort_perm xs).trans (hperm.trans (sort_perm ys).symm)
    refine eq_of_ascending (sort_ascending xs) (sort_ascending ys) hsorted fun x => ?_
    rw [filter_tied_sort, filter_tied_sort, h]

variable [Std.TransCmp first]

/-- The first sort breaks the ties of the second one. -/
theorem sort_sort (xs : List α) :
    sort order (sort first xs) = sort (fun a b => (order a b).then (first a b)) xs := by
  have hboth : Std.TransCmp fun a b => (order a b).then (first a b) :=
    inferInstanceAs (Std.TransCmp (compareLex order first))
  have hperm : (sort order (sort first xs)).Perm
      (sort (fun a b => (order a b).then (first a b)) xs) :=
    (sort_perm _).trans ((sort_perm xs).trans (sort_perm xs).symm)
  have hascending : Ascending order (sort (fun a b => (order a b).then (first a b)) xs) := by
    refine (sort_ascending xs).imp fun {a b} hba hlt => hba ?_
    rw [hlt, Ordering.lt_then]
  refine eq_of_ascending (sort_ascending _) hascending hperm fun x => ?_
  rw [filter_tied_sort, filter_sort, filter_sort]
  refine sort_congr fun a ha b hb => ?_
  rw [eq_of_tied (List.mem_filter.mp ha).2 (List.mem_filter.mp hb).2, Ordering.eq_then]

/-- The first sort does not show if it leaves tied elements alone. -/
theorem sort_sort_eq_iff :
    sort order (sort first xs) = sort order xs ↔ TiesInOrder first order xs := by
  rw [sort_eq_sort_iff (sort_perm xs)]
  constructor
  · intro h
    rw [TiesInOrder, List.pairwise_iff_getElem]
    intro i j hi hj hij htie
    -- The elements tied with the earlier one are in the order of the first sort.
    have hties : Ascending first (sort first (xs.filter (tied order xs[i]))) := sort_ascending _
    rw [← filter_sort, h, Ascending, List.pairwise_filter, List.pairwise_iff_getElem] at hties
    exact hties i j hi hj hij (tied_self xs[i]) (decide_eq_true htie)
  · intro h x
    rw [filter_sort]
    apply sort_of_ascending
    rw [Ascending, List.pairwise_filter]
    exact h.imp fun {a b} hab hxa hxb => hab (eq_of_tied hxa hxb)

end

/-! ### Where the orders are preorders on some elements only -/

variable {f : β → α}

theorem sort_sort_map [Std.TransCmp fun a b => first (f a) (f b)]
    [Std.TransCmp fun a b => order (f a) (f b)] (xs : List β) :
    sort order (sort first (xs.map f)) =
      sort (fun a b => (order a b).then (first a b)) (xs.map f) := by
  rw [sort_map, sort_map, sort_map, sort_sort]

theorem sort_sort_map_eq_iff [Std.TransCmp fun a b => first (f a) (f b)]
    [Std.TransCmp fun a b => order (f a) (f b)] (hf : Function.Injective f) (xs : List β) :
    sort order (sort first (xs.map f)) = sort order (xs.map f) ↔
      TiesInOrder first order (xs.map f) := by
  rw [sort_map, sort_map, sort_map, (List.map_injective_iff.mpr hf).eq_iff, sort_sort_eq_iff,
    TiesInOrder, TiesInOrder, List.pairwise_map]

end InsertionSort

/-! ## Rows sorted twice -/

section

variable {α : Type} {keys first second : List SortKey} {rows : List (Row α)}

/-- No three of the rows are tangled at any of the keys. -/
def UntangledRows (keys : List SortKey) (rows : List (Row α)) : Prop :=
  ∀ key ∈ keys, key.Untangled (rows.map (·.1))

/-- Rows that the second keys tie stand in the order of the first ones. -/
def TiesInOrder (first second : List SortKey) (rows : List (Row α)) : Prop :=
  InsertionSort.TiesInOrder (fun a b => orderRows first a.1 b.1)
    (fun a b => orderRows second a.1 b.1) rows

theorem transCmp_rows (h : UntangledRows keys rows) :
    Std.TransCmp fun a b : {row // row ∈ rows} => orderRows keys a.1.1 b.1.1 := by
  have hdocuments := transCmp_orderRows h
  let document (row : {row // row ∈ rows}) : {doc // doc ∈ rows.map (·.1)} :=
    ⟨row.1.1, List.mem_map_of_mem row.2⟩
  exact
    { eq_swap := fun {a b} => orderRows_swap keys b.1.1 a.1.1
      isLE_trans := fun {a b c} =>
        @Std.TransCmp.isLE_trans _ _ hdocuments (document a) (document b) (document c) }

theorem orderRows_append (keys more : List SortKey) (a b : Json) :
    orderRows (keys ++ more) a b = (orderRows keys a b).then (orderRows more a b) := by
  induction keys with
  | nil => rfl
  | cons key rest ih => rw [List.cons_append, orderRows, orderRows, ih, Ordering.then_assoc]

variable (hfirst : UntangledRows first rows) (hsecond : UntangledRows second rows)

include hfirst hsecond

theorem sortRows_sortRows :
    sortRows second (sortRows first rows) = sortRows (second ++ first) rows := by
  have hcmp := transCmp_rows hfirst
  have hcmp' := transCmp_rows hsecond
  have hsort := @InsertionSort.sort_sort_map _ _ (fun a b => orderRows second a.1 b.1)
    (fun a b => orderRows first a.1 b.1) Subtype.val hcmp hcmp' rows.attach
  rw [List.attach_map_subtype_val] at hsort
  simp only [sortRows, orderRows_append]
  exact hsort

theorem sortRows_sortRows_eq_iff :
    sortRows second (sortRows first rows) = sortRows second rows ↔
      TiesInOrder first second rows := by
  have hcmp := transCmp_rows hfirst
  have hcmp' := transCmp_rows hsecond
  have hsort := @InsertionSort.sort_sort_map_eq_iff _ _ (fun a b => orderRows second a.1 b.1)
    (fun a b => orderRows first a.1 b.1) Subtype.val hcmp hcmp' Subtype.val_injective rows.attach
  rwa [List.attach_map_subtype_val] at hsort

end

/-! ## In memory -/

namespace MemoryQuery

variable {α : Type} {project : α → Except String Json} {kept fewer other : List (Row α)}

/-- Every row holds the document its item is projected to. -/
def Projected (project : α → Except String Json) (kept : List (Row α)) : Prop :=
  ∀ row ∈ kept, project row.2 = .ok row.1

theorem projected_projectAll {items : List α} (h : projectAll project items = .ok kept) :
    Projected project kept := by
  induction items generalizing kept with
  | nil =>
    obtain rfl : [] = kept := Except.ok.inj h
    exact List.forall_mem_nil _
  | cons item rest ih =>
    rw [projectAll] at h
    split at h
    case h_1 => cases h
    case h_2 document hitem =>
      rw [bind_eq_ok] at h
      obtain ⟨others, hrest, hkept⟩ := h
      obtain rfl : (document, item) :: others = kept := Except.ok.inj hkept
      exact List.forall_mem_cons.mpr ⟨hitem, ih hrest⟩

theorem filterRows_subset {f : Filter} (h : filterRows f kept = .ok fewer) : fewer ⊆ kept := by
  induction kept generalizing fewer with
  | nil =>
    obtain rfl : [] = fewer := Except.ok.inj h
    exact List.Subset.refl _
  | cons row rest ih =>
    obtain ⟨keep, others, -, hrest, rfl⟩ := filterRows_cons_eq_ok.mp h
    cases keep with
    | true => exact List.cons_subset_cons row (ih hrest)
    | false => exact List.subset_cons_of_subset row (ih hrest)

theorem runStep_subset {step : Step} (h : runStep step kept = .ok fewer) : fewer ⊆ kept := by
  cases step with
  | filter f => exact filterRows_subset h
  | orderBy keys =>
    obtain rfl : sortRows keys kept = fewer := Except.ok.inj h
    exact (sortRows_perm keys kept).subset
  | skip count =>
    obtain rfl : kept.drop count = fewer := Except.ok.inj h
    exact List.drop_subset count kept
  | take count =>
    obtain rfl : kept.take count = fewer := Except.ok.inj h
    exact List.take_subset count kept

theorem runSteps_subset {steps : List Step} (h : runSteps steps kept = .ok fewer) :
    fewer ⊆ kept := by
  induction steps generalizing kept with
  | nil =>
    obtain rfl : kept = fewer := Except.ok.inj h
    exact List.Subset.refl _
  | cons step rest ih =>
    rw [runSteps_cons, bind_eq_ok] at h
    obtain ⟨next, hstep, hrest⟩ := h
    exact List.Subset.trans (ih hrest) (runStep_subset hstep)

/-- Items tell their rows. -/
theorem map_item_inj (hkept : Projected project kept) (hother : Projected project other) :
    kept.map (·.2) = other.map (·.2) ↔ kept = other := by
  constructor
  · intro h
    induction kept generalizing other with
    | nil => exact (List.map_eq_nil_iff.mp h.symm).symm
    | cons row rest ih =>
      cases other with
      | nil => cases h
      | cons row' rest' =>
        obtain ⟨hitem, hrest⟩ := List.cons.inj h
        obtain ⟨hrow, hkept⟩ := List.forall_mem_cons.mp hkept
        obtain ⟨hrow', hother⟩ := List.forall_mem_cons.mp hother
        have hdocument : row.1 = row'.1 := by
          have hitem : row.2 = row'.2 := hitem
          rw [← hitem, hrow] at hrow'
          exact Except.ok.inj hrow'
        rw [ih hkept hother hrest, Prod.ext hdocument hitem]
  · exact fun h => congrArg _ h

theorem projected_rows {q : MemoryQuery α} (h : q.rows = .ok kept) :
    Projected q.project kept := by
  rw [rows] at h
  split at h
  · obtain rfl : [] = kept := Except.ok.inj h
    exact List.forall_mem_nil _
  · obtain ⟨all, hall, hrun⟩ := bind_eq_ok.mp h
    exact fun row hrow => projected_projectAll hall row (runSteps_subset hrun hrow)

theorem rows_orderBy (q : MemoryQuery α) (keys : List SortKey) :
    (Queryable.orderBy q keys).rows = q.rows.map (sortRows keys) := by
  rw [Queryable.orderBy, Queryable.apply]
  exact rows_append q [.orderBy keys]

end MemoryQuery

/-! ## Over stored documents -/

namespace DocumentQuery

theorem orderBy_of_keys (q : DocumentQuery) {keys : List SortKey} (h : keys ≠ []) :
    q.orderBy keys = q.unpaged.withClauses { q.unpaged.clauses with orderBy := keys } := by
  rw [orderBy, if_neg (by simpa using h)]

/-- The keys of a statement that is not paged are the last ones asked for. -/
theorem orderBy_orderBy (q : DocumentQuery) {first second : List SortKey} (h : second ≠ []) :
    (q.orderBy first).orderBy second = q.orderBy second := by
  rcases eq_or_ne first [] with rfl | hfirst
  · rfl
  · have hpaged : (q.orderBy first).clauses.isPaged = false := by
      rw [orderBy_of_keys q hfirst]
      exact isPaged_unpaged q
    have hunpaged : (q.orderBy first).unpaged = q.orderBy first := by
      rw [unpaged, hpaged, if_neg Bool.false_ne_true]
    rw [orderBy_of_keys _ h, hunpaged, orderBy_of_keys q hfirst, orderBy_of_keys q h]
    rfl

end DocumentQuery

/-! ## One order after another -/

open Queryable (orderBy)

/-- In memory a second order leaves the rows as both orders would, the second one first. So it takes
the place of the first exactly if the rows it ties stand in the order of the first already. Over
stored documents it takes the place of the first at once. -/
theorem second_order_alone_iff_ties_in_order {α : Type} {first second : List SortKey}
    (hsecond : second ≠ []) :
    (∀ (q : MemoryQuery α) rows, q.rows = .ok rows → UntangledRows (first ++ second) rows →
      (orderBy (orderBy q first) second).toList = (orderBy q (second ++ first)).toList ∧
      ((orderBy (orderBy q first) second).toList = (orderBy q second).toList ↔
        TiesInOrder first second rows)) ∧
    (∀ (q : MemoryQuery α) error, q.rows = .error error →
      (orderBy (orderBy q first) second).toList = .error error ∧
        (orderBy q second).toList = .error error) ∧
    ∀ q : DocumentQuery, orderBy (orderBy q first) second = orderBy q second := by
  refine ⟨?_, ?_, ?_⟩
  · intro q rows hrows huntangled
    obtain ⟨hfirst, hsecond⟩ := List.forall_mem_append.mp huntangled
    have hprojected := MemoryQuery.projected_rows hrows
    have hsorted (keys : List SortKey) {rows : List (Row α)}
        (h : MemoryQuery.Projected q.project rows) :
        MemoryQuery.Projected q.project (sortRows keys rows) :=
      fun row hrow => h row ((sortRows_perm keys rows).subset hrow)
    simp only [MemoryQuery.toList_eq, MemoryQuery.rows_orderBy, hrows, Except.map]
    refine ⟨?_, ?_⟩
    · rw [sortRows_sortRows hfirst hsecond]
    · rw [Except.ok.injEq, MemoryQuery.map_item_inj (hsorted _ (hsorted _ hprojected))
        (hsorted _ hprojected)]
      exact sortRows_sortRows_eq_iff hfirst hsecond
  · intro q error hrows
    simp only [MemoryQuery.toList_eq, MemoryQuery.rows_orderBy, hrows, Except.map, and_self]
  · intro q
    exact DocumentQuery.orderBy_orderBy q hsecond

/-! ### Rooms by their floor and their beds -/

def byFloor : List SortKey := [⟨⟨["Floor"]⟩, .ascending⟩]

def byBeds : List SortKey := [⟨⟨["Beds"]⟩, .ascending⟩]

def roomOn (floor beds : Int64) : Json :=
  .object [("Floor", .number (.ofInt64 floor)), ("Beds", .number (.ofInt64 beds))]

def roomsOf (rooms : List Json) : MemoryQuery Json := .ofList rooms fun room => .ok room

/-- The rooms with one bed are in the order of their floors anyway. -/
theorem beds_after_floors :
    let rooms := [roomOn 3 2, roomOn 1 1, roomOn 2 1]
    (orderBy (orderBy (roomsOf rooms) byFloor) byBeds).toList =
        (orderBy (roomsOf rooms) byBeds).toList ∧
      (orderBy (roomsOf rooms) byBeds).toList = .ok [roomOn 1 1, roomOn 2 1, roomOn 3 2] := by
  intro rooms
  have huntangled : UntangledRows (byFloor ++ byBeds) (rooms.map fun room => (room, room)) := by
    unfold UntangledRows SortKey.Untangled
    decide +kernel
  have hties : TiesInOrder byFloor byBeds (rooms.map fun room => (room, room)) := by
    unfold TiesInOrder InsertionSort.TiesInOrder
    decide +kernel
  have hiff := (@second_order_alone_iff_ties_in_order Json byFloor byBeds (by decide)).1
    (roomsOf rooms) _ rfl huntangled
  exact ⟨hiff.2.mpr hties, by cbv⟩

/-- Of two rooms with one bed, the one on the lower floor is put first by an order that another one
was to replace. Their statement forgets it. -/
theorem beds_leave_floors :
    let rooms := [roomOn 2 1, roomOn 1 1]
    (orderBy (orderBy (roomsOf rooms) byFloor) byBeds).toList = .ok [roomOn 1 1, roomOn 2 1] ∧
      (orderBy (roomsOf rooms) byBeds).toList = .ok [roomOn 2 1, roomOn 1 1] ∧
      (orderBy (orderBy (DocumentQuery.ofTable "t" "doc") byFloor) byBeds).sql =
        (orderBy (DocumentQuery.ofTable "t" "doc") byBeds).sql := by
  refine ⟨?_, ?_, ?_⟩ <;> cbv

end FieldQuery
