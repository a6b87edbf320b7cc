import Mathlib
import FieldQuery.Query.Ordering
import FieldQuery.Query.Memory

/-!
# Sorting

The sort is stable, so it commutes with dropping elements and leaves a sorted list alone. Rows are
ordered by a total preorder as long as the numbers at their sort keys are compared exactly.
-/

namespace FieldQuery

/-! ## Stable sorting -/

namespace InsertionSort

variable {α : Type} {order : α → α → Ordering}

/-- No element is less than one in front of it. -/
def Ascending (order : α → α → Ordering) (xs : List α) : Prop :=
  xs.Pairwise fun a b => order b a ≠ .lt

def Descending (order : α → α → Ordering) (xs : List α) : Prop :=
  xs.Pairwise fun a b => order a b ≠ .lt

theorem sort_concat (xs : List α) (x : α) :
    sort order (xs ++ [x]) = (insertFromEnd order x (sort order xs).reverse).reverse := by
  simp [sort]

theorem insertFromEnd_perm (x : α) (ys : List α) :
    (insertFromEnd order x ys).Perm (x :: ys) := by
  induction ys with
  | nil => rfl
  | cons y ys ih =>
    rw [insertFromEnd]
    split
    · exact (ih.cons y).trans (List.Perm.swap x y ys)
    · rfl

theorem sort_perm (xs : List α) : (sort order xs).Perm xs := by
  induction xs using List.reverseRecOn with
  | nil => rfl
  | append_singleton xs x ih =>
    rw [sort_concat]
    calc (insertFromEnd order x (sort order xs).reverse).reverse
        _ |>.Perm (insertFromEnd order x (sort order xs).reverse) := List.reverse_perm _
        _ |>.Perm (x :: (sort order xs).reverse) := insertFromEnd_perm x _
        _ |>.Perm (x :: xs) := ((List.reverse_perm _).trans ih).cons x
        _ |>.Perm (xs ++ [x]) := (List.perm_append_singleton x xs).symm

theorem insertFromEnd_of_forall {x : α} {ys : List α} (h : ∀ y ∈ ys, order x y ≠ .lt) :
    insertFromEnd order x ys = x :: ys := by
  cases ys with
  | nil => rfl
  | cons y ys => rw [insertFromEnd, if_neg (h y (by simp))]

theorem sort_of_ascending {xs : List α} (h : Ascending order xs) : sort order xs = xs := by
  induction xs using List.reverseRecOn with
  | nil => rfl
  | append_singleton xs x ih =>
    rw [Ascending, List.pairwise_append] at h
    have hlast : ∀ y ∈ xs.reverse, order x y ≠ .lt := by
      intro y hy
      exact h.2.2 y (List.mem_reverse.mp hy) x (by simp)
    rw [sort_concat, ih h.1, insertFromEnd_of_forall hlast]
    simp

theorem sort_congr {other : α → α → Ordering} {xs : List α}
    (h : ∀ a ∈ xs, ∀ b ∈ xs, order a b = other a b) : sort order xs = sort other xs := by
  induction xs using List.reverseRecOn with
  | nil => rfl
  | append_singleton xs x ih =>
    have hinsert : ∀ ys : List α, (∀ y ∈ ys, order x y = other x y) →
        insertFromEnd order x ys = insertFromEnd other x ys := by
      intro ys hys
      induction ys with
      | nil => rfl
      | cons y ys ihys =>
        rw [insertFromEnd, insertFromEnd, hys y (by simp), ihys fun z hz => hys z (by simp [hz])]
    rw [sort_concat, sort_concat, ih fun a ha b hb => h a (by simp [ha]) b (by simp [hb])]
    rw [hinsert]
    intro y hy
    exact h x (by simp) y (by simp [(sort_perm xs).mem_iff.mp (List.mem_reverse.mp hy)])

/-! ### Under a total preorder -/

variable [Std.TransCmp order]

theorem not_lt_trans {a b c : α} (hab : order a b ≠ .lt) (hbc : order b c ≠ .lt) :
    order a c ≠ .lt := by
  have hge : (order a c).isGE :=
    Std.TransCmp.isGE_trans (Ordering.ne_lt_iff_isGE.mp hab) (Ordering.ne_lt_iff_isGE.mp hbc)
  exact Ordering.ne_lt_iff_isGE.mpr hge

theorem insertFromEnd_descending (x : α) {ys : List α} (h : Descending order ys) :
    Descending order (insertFromEnd order x ys) := by
  induction ys with
  | nil => simp [insertFromEnd, Descending]
  | cons y ys ih =>
    obtain ⟨hy, hys⟩ := List.pairwise_cons.mp h
    rw [insertFromEnd]
    split
    case isTrue hlt =>
      refine List.pairwise_cons.mpr ⟨?_, ih hys⟩
      intro z hz
      rcases List.mem_cons.mp ((insertFromEnd_perm x ys).mem_iff.mp hz) with rfl | hz
      · have hswap : order y z = (order z y).swap := Std.OrientedCmp.eq_swap
        rw [hswap, hlt]
        decide
      · exact hy z hz
    case isFalse hnot =>
      refine List.pairwise_cons.mpr ⟨?_, h⟩
      intro z hz
      rcases List.mem_cons.mp hz with rfl | hz
      · exact hnot
      · exact not_lt_trans hnot (hy z hz)

theorem sort_descending (xs : List α) : Descending order (sort order xs).reverse := by
  induction xs using List.reverseRecOn with
  | nil => exact List.Pairwise.nil
  | append_singleton xs x ih =>
    rw [sort_concat, List.reverse_reverse]
    exact insertFromEnd_descending x ih

theorem sort_ascending (xs : List α) : Ascending order (sort order xs) := by
  rw [← List.reverse_reverse (sort order xs), Ascending, List.pairwise_reverse]
  exact sort_descending xs

theorem filter_insertFromEnd (p : α → Bool) (x : α) {ys : List α} (h : Descending order ys) :
    (insertFromEnd order x ys).filter p =
      if p x then insertFromEnd order x (ys.filter p) else ys.filter p := by
  induction ys with
  | nil => simp [insertFromEnd, List.filter_cons]
  | cons y ys ih =>
    obtain ⟨hy, hys⟩ := List.pairwise_cons.mp h
    rw [insertFromEnd]
    split
    case isTrue hlt =>
      rw [List.filter_cons, List.filter_cons, ih hys]
      cases p x <;> cases p y <;> simp [insertFromEnd, hlt]
    case isFalse hnot =>
      -- Nothing behind `y` is greater than `x` either.
      have hall : ∀ z ∈ (y :: ys).filter p, order x z ≠ .lt := by
        intro z hz
        rcases List.mem_cons.mp (List.mem_of_mem_filter hz) with rfl | hz
        · exact hnot
        · exact not_lt_trans hnot (hy z hz)
      rw [insertFromEnd_of_forall hall, List.filter_cons (x := x)]

/-- A stable sort does not mind which elements are dropped first. -/
theorem filter_sort (p : α → Bool) (xs : List α) :
    (sort order xs).filter p = sort order (xs.filter p) := by
  induction xs using List.reverseRecOn with
  | nil => rfl
  | append_singleton xs x ih =>
    rw [sort_concat, List.filter_reverse, filter_insertFromEnd p x (sort_descending xs),
      List.filter_reverse, ih, List.filter_append]
    cases hx : p x with
    | true => rw [List.filter_cons_of_pos hx, List.filter_nil, sort_concat, if_pos rfl]
    | false =>
      rw [List.filter_cons_of_neg (by simp [hx]), List.filter_nil, List.append_nil]
      simp

end InsertionSort

/-! ## The order of documents -/

namespace Json

/-- Any number here is an integer of the signed 64-bit range, so it is compared without rounding. -/
def Exact : Json → Prop
  | .number n => n.toInt64?.isSome
  | _ => True

instance : DecidablePred Exact
  | .number n => inferInstanceAs (Decidable (n.toInt64?.isSome = true))
  | .null | .boolean _ | .string _ | .array _ | .object _ => inferInstanceAs (Decidable True)

def truth : Json → Bool
  | .boolean b => b
  | _ => false

def integer : Json → Int
  | .number n => (n.toInt64?.map Int64.toInt).getD 0
  | _ => 0

def text : Json → String
  | .string s => s
  | _ => ""

/-- By kind first, then by the content that values of the kind have. -/
def exactOrder : Json → Json → Ordering :=
  compareLex (compareOn rank)
    (compareLex (compareOn truth) (compareLex (compareOn integer) (compareOn text)))

instance : Std.TransCmp exactOrder := by
  unfold exactOrder
  infer_instance

theorem order_eq_exactOrder {a b : Json} (ha : a.Exact) (hb : b.Exact) :
    a.order b = exactOrder a b := by
  cases a with
  | number m =>
    cases b with
    | number n =>
      obtain ⟨i, hi⟩ := Option.isSome_iff_exists.mp ha
      obtain ⟨j, hj⟩ := Option.isSome_iff_exists.mp hb
      simp [order, orderNumbers, exactOrder, compareLex, compareOn, rank, truth, integer, text, hi,
        hj]
    | null | boolean | string | array | object => rfl
  | boolean =>
    cases b with
    | boolean => simp [order, exactOrder, compareLex, compareOn, rank, truth, integer, text]
    | null | number | string | array | object => rfl
  | string =>
    cases b with
    | string => simp [order, exactOrder, compareLex, compareOn, rank, truth, integer, text]
    | null | boolean | number | array | object => rfl
  | null | array | object => cases b <;> rfl

end Json

namespace SortKey

/-- The value at the key of a document is compared without rounding. -/
def ExactAt (key : SortKey) (document : Json) : Prop := (key.member.read document).Exact

instance (key : SortKey) (document : Json) : Decidable (key.ExactAt document) :=
  inferInstanceAs (Decidable (key.member.read document).Exact)

def exactOrder (key : SortKey) (a b : Json) : Ordering :=
  match key.direction with
  | .ascending => (key.member.read a).exactOrder (key.member.read b)
  | .descending => (key.member.read b).exactOrder (key.member.read a)

instance (key : SortKey) : Std.TransCmp key.exactOrder where
  eq_swap {a b} := by
    have hswap (x y : Json) : x.exactOrder y = (y.exactOrder x).swap := Std.OrientedCmp.eq_swap
    unfold exactOrder
    cases key.direction
    · exact hswap _ _
    · exact hswap _ _
  isLE_trans {a b c} hab hbc := by
    unfold exactOrder at *
    cases hdir : key.direction
    all_goals simp only [hdir] at hab hbc ⊢
    · exact Std.TransCmp.isLE_trans hab hbc
    · exact Std.TransCmp.isLE_trans hbc hab

theorem order_eq_exactOrder {key : SortKey} {a b : Json} (ha : key.ExactAt a)
    (hb : key.ExactAt b) : key.order a b = key.exactOrder a b := by
  unfold order exactOrder
  cases key.direction
  · exact Json.order_eq_exactOrder ha hb
  · exact Json.order_eq_exactOrder hb ha

end SortKey

def exactOrderRows : List SortKey → Json → Json → Ordering
  | [] => fun _ _ => .eq
  | key :: rest => compareLex key.exactOrder (exactOrderRows rest)

instance (keys : List SortKey) : Std.TransCmp (exactOrderRows keys) := by
  induction keys with
  | nil => exact { eq_swap := rfl, isLE_trans := fun _ _ => rfl }
  | cons key rest ih =>
    unfold exactOrderRows
    infer_instance

theorem orderRows_eq_exact {keys : List SortKey} {a b : Json} (ha : ∀ key ∈ keys, key.ExactAt a)
    (hb : ∀ key ∈ keys, key.ExactAt b) : orderRows keys a b = exactOrderRows keys a b := by
  induction keys with
  | nil => rfl
  | cons key rest ih =>
    rw [List.forall_mem_cons] at ha hb
    rw [orderRows, exactOrderRows, compareLex, SortKey.order_eq_exactOrder ha.1 hb.1,
      ih ha.2 hb.2]

/-! ## Sorted rows -/

variable {α : Type}

def sortRows (keys : List SortKey) (rows : List (Row α)) : List (Row α) :=
  InsertionSort.sort (fun a b => orderRows keys a.1 b.1) rows

/-- All rows have exact values at all keys. -/
def ExactRows (keys : List SortKey) (rows : List (Row α)) : Prop :=
  ∀ row ∈ rows, ∀ key ∈ keys, key.ExactAt row.1

theorem ExactRows.subset {keys : List SortKey} {rows fewer : List (Row α)}
    (h : ExactRows keys rows) (hsub : fewer ⊆ rows) : ExactRows keys fewer :=
  fun row hrow => h row (hsub hrow)

theorem sortRows_perm (keys : List SortKey) (rows : List (Row α)) :
    (sortRows keys rows).Perm rows :=
  InsertionSort.sort_perm rows

/-- Without keys all rows are equal, and stay where they are. -/
theorem sortRows_nil (rows : List (Row α)) : sortRows [] rows = rows := by
  apply InsertionSort.sort_of_ascending
  exact List.pairwise_of_forall fun _ _ => by simp [orderRows]

def exactRowOrder (keys : List SortKey) (a b : Row α) : Ordering := exactOrderRows keys a.1 b.1

instance (keys : List SortKey) : Std.TransCmp (@exactRowOrder α keys) where
  eq_swap {a b} := @Std.OrientedCmp.eq_swap _ (exactOrderRows keys) _ a.1 b.1
  isLE_trans {a b c} := @Std.TransCmp.isLE_trans _ (exactOrderRows keys) _ a.1 b.1 c.1

theorem sortRows_eq_exact {keys : List SortKey} {rows : List (Row α)} (h : ExactRows keys rows) :
    sortRows keys rows = InsertionSort.sort (exactRowOrder keys) rows :=
  InsertionSort.sort_congr fun a ha b hb => orderRows_eq_exact (h a ha) (h b hb)

theorem filter_sortRows {keys : List SortKey} {rows : List (Row α)} (h : ExactRows keys rows)
    (p : Row α → Bool) : (sortRows keys rows).filter p = sortRows keys (rows.filter p) := by
  rw [sortRows_eq_exact h, InsertionSort.filter_sort,
    sortRows_eq_exact (h.subset List.filter_sublist.subset)]

/-- What is left of sorted rows is sorted. -/
theorem sortRows_of_sublist {keys : List SortKey} {rows fewer : List (Row α)}
    (h : ExactRows keys rows) (hsub : fewer.Sublist (sortRows keys rows)) :
    sortRows keys fewer = fewer := by
  have hfewer : ExactRows keys fewer :=
    h.subset fun _ hrow => (sortRows_perm keys rows).subset (hsub.subset hrow)
  rw [sortRows_eq_exact hfewer]
  rw [sortRows_eq_exact h] at hsub
  exact InsertionSort.sort_of_ascending ((InsertionSort.sort_ascending rows).sublist hsub)

end FieldQuery
