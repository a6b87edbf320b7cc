import Mathlib
import FieldQuery.Proofs.Number.Rounding
import FieldQuery.Proofs.Query.Ordering

/-!
# Where the order of documents is a preorder

Documents are reflexively and symmetrically ordered, but not transitively: integers are compared
exactly with each other and as doubles with everything else. This says which values it fails on.
-/

namespace FieldQuery

namespace Json

/-! ## Numbers -/

theorem orderNumbers_ofInt64 (i j : Int64) :
    orderNumbers (.ofInt64 i) (.ofInt64 j) = compare i.toInt j.toInt := by
  simp only [orderNumbers, Number.toInt64?_ofInt64]

theorem orderNumbers_eq_units {a b : Number} (h : a.toInt64? = none ∨ b.toInt64? = none) :
    orderNumbers a b = compare a.units b.units := by
  unfold orderNumbers
  rcases h with h | h
  · simp only [h]
    rfl
  · cases ha : a.toInt64? <;> simp only [h] <;> rfl

theorem orderNumbers_swap (a b : Number) : orderNumbers b a = (orderNumbers a b).swap := by
  unfold orderNumbers
  cases a.toInt64? <;> cases b.toInt64? <;> exact Std.OrientedOrd.eq_swap

theorem units_le_of_orderNumbers {a b : Number} (h : orderNumbers a b ≠ .gt) :
    a.units ≤ b.units := by
  cases ha : a.toInt64? with
  | none =>
    rw [orderNumbers_eq_units (.inl ha)] at h
    exact compare_le_iff_le.mp h
  | some i =>
    cases hb : b.toInt64? with
    | none =>
      rw [orderNumbers_eq_units (.inr hb)] at h
      exact compare_le_iff_le.mp h
    | some j =>
      obtain rfl := Number.toInt64?_eq_some.mp ha
      obtain rfl := Number.toInt64?_eq_some.mp hb
      rw [orderNumbers_ofInt64] at h
      exact Number.units_ofInt64_mono (compare_le_iff_le.mp h)

/-- Two integers that are told apart stand the wrong way round about a third number, which is only
compared with them as a double and has the double of both. -/
inductive Tangled : Json → Json → Json → Prop
  | numbers {i j : Int64} {n : Number} (below : j.toInt < i.toInt) (wide : n.toInt64? = none)
      (left : (Number.ofInt64 i).units = n.units) (right : n.units = (Number.ofInt64 j).units) :
      Tangled (.number (.ofInt64 i)) (.number n) (.number (.ofInt64 j))

theorem tangled_of_orderNumbers {a b c : Number} (hab : orderNumbers a b ≠ .gt)
    (hbc : orderNumbers b c ≠ .gt) (hac : orderNumbers a c = .gt) :
    Tangled (.number a) (.number b) (.number c) := by
  have hle := units_le_of_orderNumbers hab
  have hle' := units_le_of_orderNumbers hbc
  cases ha : a.toInt64? with
  | none =>
    rw [orderNumbers_eq_units (.inl ha)] at hac
    have hlt := compare_gt_iff_gt.mp hac
    omega
  | some i =>
    cases hc : c.toInt64? with
    | none =>
      rw [orderNumbers_eq_units (.inr hc)] at hac
      have hlt := compare_gt_iff_gt.mp hac
      omega
    | some j =>
      obtain rfl := Number.toInt64?_eq_some.mp ha
      obtain rfl := Number.toInt64?_eq_some.mp hc
      rw [orderNumbers_ofInt64] at hac
      have hlt : j.toInt < i.toInt := compare_gt_iff_gt.mp hac
      cases hb : b.toInt64? with
      | none =>
        have hback := Number.units_ofInt64_mono hlt.le
        exact .numbers hlt hb (by omega) (by omega)
      | some k =>
        obtain rfl := Number.toInt64?_eq_some.mp hb
        rw [orderNumbers_ofInt64] at hab hbc
        have hik := compare_le_iff_le.mp hab
        have hkj := compare_le_iff_le.mp hbc
        omega

/-! ## Documents -/

theorem order_of_rank_ne {a b : Json} (h : a.rank ≠ b.rank) :
    a.order b = compare a.rank b.rank := by
  unfold order
  split
  · exact absurd rfl h
  · exact absurd rfl h
  · exact absurd rfl h
  · rfl

theorem order_swap (a b : Json) : b.order a = (a.order b).swap := by
  cases a with
  | boolean p =>
    cases b with
    | boolean q => exact Std.OrientedOrd.eq_swap
    | null | number | string | array | object => rfl
  | number m =>
    cases b with
    | number n => exact orderNumbers_swap m n
    | null | boolean | string | array | object => rfl
  | string s =>
    cases b with
    | string t => exact Std.OrientedOrd.eq_swap
    | null | boolean | number | array | object => rfl
  | null | array | object => cases b <;> rfl

theorem order_self (a : Json) : a.order a = .eq := by
  have h := order_swap a a
  cases hself : a.order a <;> simp [hself] at h ⊢

theorem rank_le_of_order {a b : Json} (h : a.order b ≠ .gt) : a.rank ≤ b.rank := by
  by_contra hgt
  rw [order_of_rank_ne (by omega)] at h
  exact hgt (compare_le_iff_le.mp h)

theorem eq_boolean_of_rank {a : Json} (h : a.rank = 1) : ∃ p, a = .boolean p := by
  cases a <;> simp [rank] at h ⊢

theorem eq_number_of_rank {a : Json} (h : a.rank = 2) : ∃ n, a = .number n := by
  cases a <;> simp [rank] at h ⊢

theorem eq_string_of_rank {a : Json} (h : a.rank = 3) : ∃ s, a = .string s := by
  cases a <;> simp [rank] at h ⊢

theorem compare_ne_gt_trans {α : Type} [Ord α] [Std.TransOrd α] {a b c : α}
    (hab : compare a b ≠ .gt) (hbc : compare b c ≠ .gt) : compare a c ≠ .gt := by
  have hle := Std.TransOrd.isLE_trans (Ordering.ne_gt_iff_isLE.mp hab)
    (Ordering.ne_gt_iff_isLE.mp hbc)
  exact Ordering.ne_gt_iff_isLE.mpr hle

theorem tangled_of_order {a b c : Json} (hab : a.order b ≠ .gt) (hbc : b.order c ≠ .gt)
    (hac : a.order c = .gt) : Tangled a b c := by
  -- All three are of one kind.
  have hca : c.order a ≠ .gt := by
    rw [order_swap a c, hac]
    decide
  have hrank := rank_le_of_order hab
  have hrank' := rank_le_of_order hbc
  have hback := rank_le_of_order hca
  cases a with
  | number m =>
    obtain ⟨n, rfl⟩ := eq_number_of_rank (hrank'.trans hback |>.antisymm hrank)
    obtain ⟨k, rfl⟩ := eq_number_of_rank (hback.antisymm (hrank.trans hrank'))
    exact tangled_of_orderNumbers hab hbc hac
  | boolean p =>
    obtain ⟨q, rfl⟩ := eq_boolean_of_rank (hrank'.trans hback |>.antisymm hrank)
    obtain ⟨r, rfl⟩ := eq_boolean_of_rank (hback.antisymm (hrank.trans hrank'))
    exact absurd hac (compare_ne_gt_trans hab hbc)
  | string s =>
    obtain ⟨t, rfl⟩ := eq_string_of_rank (hrank'.trans hback |>.antisymm hrank)
    obtain ⟨u, rfl⟩ := eq_string_of_rank (hback.antisymm (hrank.trans hrank'))
    exact absurd hac (compare_ne_gt_trans hab hbc)
  | null | array | object =>
    have hlt := compare_gt_iff_gt.mp hac
    omega

theorem Tangled.order {a b c : Json} (h : Tangled a b c) :
    a.order b = .eq ∧ b.order c = .eq ∧ a.order c = .gt := by
  cases h with
  | numbers below wide left right =>
    refine ⟨?_, ?_, ?_⟩
    · exact (orderNumbers_eq_units (.inr wide)).trans (compare_eq_iff_eq.mpr left)
    · exact (orderNumbers_eq_units (.inl wide)).trans (compare_eq_iff_eq.mpr right)
    · exact (orderNumbers_ofInt64 _ _).trans (compare_gt_iff_gt.mpr below)

theorem tangled_iff {a b c : Json} :
    Tangled a b c ↔ a.order b ≠ .gt ∧ b.order c ≠ .gt ∧ a.order c = .gt := by
  constructor
  · intro h
    obtain ⟨hab, hbc, hac⟩ := h.order
    simp [hab, hbc, hac]
  · rintro ⟨hab, hbc, hac⟩
    exact tangled_of_order hab hbc hac

instance (a b c : Json) : Decidable (Tangled a b c) := decidable_of_iff _ tangled_iff.symm

end Json

/-! ## Rows -/

namespace SortKey

theorem order_swap (key : SortKey) (a b : Json) : key.order b a = (key.order a b).swap := by
  unfold order
  cases key.direction
  · exact Json.order_swap _ _
  · exact Json.order_swap _ _

def Untangled (key : SortKey) (rows : List Json) : Prop :=
  ∀ a ∈ rows, ∀ b ∈ rows, ∀ c ∈ rows,
    ¬ Json.Tangled (key.member.read a) (key.member.read b) (key.member.read c)

theorem Untangled.transCmp {key : SortKey} {rows : List Json} (h : key.Untangled rows) :
    Std.TransCmp fun a b : {row // row ∈ rows} => key.order a b where
  eq_swap {a b} := order_swap key b a
  isLE_trans {a b c} hab hbc := by
    rw [← Ordering.ne_gt_iff_isLE] at *
    intro hac
    unfold order at hab hbc hac
    cases hdir : key.direction with
    | ascending =>
      simp only [hdir] at hab hbc hac
      exact h a a.2 b b.2 c c.2 (Json.tangled_of_order hab hbc hac)
    | descending =>
      simp only [hdir] at hab hbc hac
      exact h c c.2 b b.2 a a.2 (Json.tangled_of_order hbc hab hac)

theorem untangled_of_trans {key : SortKey} {rows : List Json}
    (h : ∀ a ∈ rows, ∀ b ∈ rows, ∀ c ∈ rows,
      key.order a b ≠ .gt → key.order b c ≠ .gt → key.order a c ≠ .gt) :
    key.Untangled rows := by
  intro a ha b hb c hc htangled
  obtain ⟨hab, hbc, hac⟩ := htangled.order
  cases hdir : key.direction with
  | ascending =>
    have htrans := h a ha b hb c hc
    simp [order, hdir, hab, hbc, hac] at htrans
  | descending =>
    have htrans := h c hc b hb a ha
    simp [order, hdir, hab, hbc, hac] at htrans

end SortKey

theorem orderRows_swap (keys : List SortKey) (a b : Json) :
    orderRows keys b a = (orderRows keys a b).swap := by
  induction keys with
  | nil => rfl
  | cons key rest ih => rw [orderRows, orderRows, ih, key.order_swap, Ordering.swap_then]

theorem orderRows_self (keys : List SortKey) (a : Json) : orderRows keys a a = .eq := by
  have h := orderRows_swap keys a a
  cases hself : orderRows keys a a <;> simp [hself] at h ⊢

theorem orderRows_singleton (key : SortKey) (a b : Json) :
    orderRows [key] a b = key.order a b := by
  rw [orderRows, orderRows, Ordering.then_eq]

theorem transCmp_orderRows {keys : List SortKey} {rows : List Json}
    (h : ∀ key ∈ keys, key.Untangled rows) :
    Std.TransCmp fun a b : {row // row ∈ rows} => orderRows keys a b := by
  induction keys with
  | nil => exact { eq_swap := rfl, isLE_trans := fun _ _ => rfl }
  | cons key rest ih =>
    rw [List.forall_mem_cons] at h
    have hkey := h.1.transCmp
    have hrest := ih h.2
    exact inferInstanceAs (Std.TransCmp (compareLex
      (fun a b : {row // row ∈ rows} => key.order a b) fun a b => orderRows rest a b))

/-- Values and rows are ordered reflexively and symmetrically. The order of values is transitive but
for tangled ones, and so a list of keys, however it is cut, orders rows by a total preorder exactly
when no three rows have tangled values at a key. -/
theorem order_preorder_iff_untangled (keys : List SortKey) (rows : List Json) :
    (∀ a b c : Json, a.order a = .eq ∧ b.order a = (a.order b).swap ∧
      ((a.order b ≠ .gt ∧ b.order c ≠ .gt ∧ a.order c = .gt) ↔ Json.Tangled a b c)) ∧
    (∀ a b : Json,
      orderRows keys a a = .eq ∧ orderRows keys b a = (orderRows keys a b).swap) ∧
    ((∀ key ∈ keys, key.Untangled rows) ↔
      ∀ fewer ⊆ keys, ∀ a ∈ rows, ∀ b ∈ rows, ∀ c ∈ rows,
        orderRows fewer a b ≠ .gt → orderRows fewer b c ≠ .gt → orderRows fewer a c ≠ .gt) := by
  refine ⟨?_, ?_, ?_, ?_⟩
  · intro a b c
    exact ⟨Json.order_self a, Json.order_swap a b, Json.tangled_iff.symm⟩
  · intro a b
    exact ⟨orderRows_self keys a, orderRows_swap keys a b⟩
  · intro h fewer hfewer a ha b hb c hc hab hbc
    have hcmp := transCmp_orderRows fun key hkey => h key (hfewer hkey)
    have hle := @Std.TransCmp.isLE_trans _ _ hcmp ⟨a, ha⟩ ⟨b, hb⟩ ⟨c, hc⟩
      (Ordering.ne_gt_iff_isLE.mp hab) (Ordering.ne_gt_iff_isLE.mp hbc)
    exact Ordering.ne_gt_iff_isLE.mpr hle
  · intro h key hkey
    apply SortKey.untangled_of_trans
    intro a ha b hb c hc
    have htrans := h [key] (by simpa using hkey) a ha b hb c hc
    rwa [orderRows_singleton, orderRows_singleton, orderRows_singleton] at htrans

/-! ### Numbers at the limit of exact doubles -/

/-- The whole numbers up to 2^53 are doubles, and the one after it is not. -/
def limit : Json := .number (.ofInt64 9007199254740992)

def pastLimit : Json := .number (.ofInt64 9007199254740993)

def limitAsDouble : Json :=
  .number (.float ⟨false, 4503599627370496, 1075, by decide, by decide, by decide⟩)

def half : Json :=
  .number (.float ⟨false, 4503599627370496, 1021, by decide, by decide, by decide⟩)

def sized (n : Json) : Json := .object [("Size", n)]

def bySize : List SortKey := [⟨⟨["Size"]⟩, .ascending⟩]

/-- Exact and rounded numbers mix well as long as no two integers share a double with them. -/
theorem sizes_ordered :
    let rows := [sized pastLimit, sized limit, sized half, sized .null]
    (∀ key ∈ bySize, key.Untangled rows) ∧
      ∀ a ∈ rows, ∀ b ∈ rows, ∀ c ∈ rows,
        orderRows bySize a b ≠ .gt → orderRows bySize b c ≠ .gt → orderRows bySize a c ≠ .gt := by
  have huntangled : ∀ key ∈ bySize,
      key.Untangled [sized pastLimit, sized limit, sized half, sized .null] := by
    unfold SortKey.Untangled
    decide +kernel
  have htrans := (order_preorder_iff_untangled _ _).2.2.mp huntangled
  exact ⟨huntangled, htrans bySize (List.Subset.refl _)⟩

/-- The double is equal to both integers, of which one is greater. A sort that compares neighbours
leaves the greater integer in front of the other. -/
theorem sizes_tangled :
    pastLimit.order limitAsDouble = .eq ∧ limitAsDouble.order limit = .eq ∧
      pastLimit.order limit = .gt ∧
      (Queryable.orderBy (MemoryQuery.ofList [0, 1, 2, 3] fun row =>
        .ok (sized ([pastLimit, limit, limitAsDouble, limit].getD row .null))) bySize).toList =
          .ok [1, 0, 2, 3] := by
  decide +kernel

end FieldQuery
