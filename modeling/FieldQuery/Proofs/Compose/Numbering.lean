import Mathlib
import FieldQuery.Proofs.Calendar.Days
import FieldQuery.Proofs.Compose.Searches
import FieldQuery.Proofs.Query.Joined

/-!
# The numbers of a filter's parameters

The comparisons of a composed filter count its parameters from left to right, one each. Two
comparisons in a row that bound one member are a day, and only they are about points in time.
-/

namespace FieldQuery

/-! ## Failures -/

theorem MemberPath.follow_error {np : Bool} {seen rest : List String} {value : Json}
    {e : QueryError} (h : follow np seen rest value = .error e) :
    ∃ path, e = .nullReference path := by
  induction rest generalizing seen value with
  | nil => cases h
  | cons name rest ih =>
    unfold follow at h
    split at h
    case isTrue =>
      split at h
      · cases h
      · cases h
        exact ⟨_, rfl⟩
    case isFalse => exact ih h

theorem MemberPath.access_ne_unbound {p : MemberPath} {np : Bool} {scope : Json} {i : Nat} :
    p.access np scope ≠ .error (.unboundParameter i) := by
  intro h
  obtain ⟨path, hpath⟩ := follow_error h
  cases hpath

namespace Expr

variable {params : List Parameter} {i : Nat}

mutual

theorem eval_ne_unbound (e : Expr) (h : e.BoundIn params) (scope : Json) :
    e.eval params scope ≠ .error (.unboundParameter i) := by
  match e with
  | .compare c =>
    have hparam := List.getElem?_eq_getElem (h c List.mem_cons_self)
    rw [eval_compare_bound hparam]
    cases hvalue : c.member.access c.nullPropagating scope with
    | ok v => exact nofun
    | error e =>
      rintro ⟨⟩
      exact MemberPath.access_ne_unbound hvalue
  | .any collection np predicate =>
    rw [eval_any, Ne, bind_eq_error]
    rintro (hvalue | ⟨v, -, hsearch⟩)
    · exact MemberPath.access_ne_unbound hvalue
    · cases v with
      | array elements =>
        obtain ⟨_, x, _, -, -, hx⟩ := anyElement_error_iff.mp hsearch
        exact eval_ne_unbound predicate h x hx
      | null | boolean | number | string | object => cases hsearch
  | .and parts => exact evalAll_ne_unbound parts h scope

theorem evalAll_ne_unbound (parts : List Expr)
    (h : ∀ c ∈ comparisonsOf parts, c.param < params.length) (scope : Json) :
    evalAll params parts scope ≠ .error (.unboundParameter i) := by
  match parts with
  | [] => exact nofun
  | part :: rest =>
    rw [comparisonsOf, List.forall_mem_append] at h
    rw [evalAll_cons, Ne, bind_eq_error]
    rintro (hpart | ⟨holds, -, hrest⟩)
    · exact eval_ne_unbound part h.1 scope hpart
    · cases holds with
      | true => exact evalAll_ne_unbound rest h.2 scope hrest
      | false => cases hrest

end

/-! ## Parts of an expression -/

/-- One expression is another, or stands anywhere in it. -/
inductive Occurs (x : Expr) : Expr → Prop
  | here : Occurs x x
  | any {collection : MemberPath} {np : Bool} {predicate : Expr} (below : Occurs x predicate) :
      Occurs x (.any collection np predicate)
  | and {parts : List Expr} {part : Expr} (mem : part ∈ parts) (below : Occurs x part) :
      Occurs x (.and parts)

/-- No conjunction stands in one of two comparisons but that itself. -/
theorem Occurs.eq_pair {parts : List Expr} {a b : Comparison}
    (h : Occurs (.and parts) (.and [.compare a, .compare b])) :
    parts = [.compare a, .compare b] := by
  cases h with
  | here => rfl
  | and hpart hbelow =>
    simp only [List.mem_cons, List.not_mem_nil, or_false] at hpart
    rcases hpart with rfl | rfl <;> cases hbelow

/-- Two comparisons in a row, and nothing else with them, bound one member from both sides. -/
structure HasRange (e : Expr) (lower upper : Comparison) : Prop where
  occurs : Occurs (.and [.compare lower, .compare upper]) e
  ge : lower.op = .ge
  lt : upper.op = .lt
  member : lower.member = upper.member

variable {lower upper : Comparison} {e : Expr}

theorem HasRange.any (h : e.HasRange lower upper) (collection : MemberPath) (np : Bool) :
    (Expr.any collection np e).HasRange lower upper :=
  ⟨.any h.occurs, h.ge, h.lt, h.member⟩

theorem HasRange.and {parts : List Expr} (h : e.HasRange lower upper) (hmem : e ∈ parts) :
    (Expr.and parts).HasRange lower upper :=
  ⟨.and hmem h.occurs, h.ge, h.lt, h.member⟩

theorem HasRange.of_any {collection : MemberPath} {np : Bool}
    (h : (Expr.any collection np e).HasRange lower upper) : e.HasRange lower upper := by
  cases h.occurs with
  | any below => exact ⟨below, h.ge, h.lt, h.member⟩

theorem mem_comparisonsOf {parts : List Expr} {c : Comparison} :
    c ∈ comparisonsOf parts ↔ ∃ part ∈ parts, c ∈ part.comparisons := by
  induction parts with
  | nil => simp [comparisonsOf]
  | cons part rest ih => simp [comparisonsOf, ih]

theorem comparisons_conjunction (parts : List Expr) :
    (conjunction parts).comparisons = comparisonsOf parts := by
  match parts with
  | [part] => rw [conjunction, comparisonsOf, comparisonsOf, List.append_nil]
  | [] | _ :: _ :: _ => rw [conjunction, comparisons]; rintro e ⟨⟩

end Expr

/-! ## Fragments -/

/-- A test of `count` parameters, the first with number `first`: of a value that is no time, or of
the bounds of a day; inside any searches. -/
inductive IsFragment (params : List Parameter) (first : Nat) : (count : Nat) → Expr → Prop
  | value {param : Parameter} (member : MemberPath) (np : Bool) (found : params[first]? = some param)
      (notNull : param.isNull = false) (notTime : param.isTemporal = false) :
      IsFragment params first 1 (.compare ⟨member, .eq, first, np⟩)
  | day {start stop : DateTime} (member : MemberPath) (np : Bool)
      (begins : params[first]? = some (.dateTime start))
      (ends : params[first + 1]? = some (.dateTime stop)) (next : start.nextDay? = some stop) :
      IsFragment params first 2
        (.and [.compare ⟨member, .ge, first, np⟩, .compare ⟨member, .lt, first + 1, np⟩])
  | search {count : Nat} {e : Expr} (collection : MemberPath) (np : Bool)
      (below : IsFragment params first count e) :
      IsFragment params first count (.any collection np e)

/-- Fragments in a row, each with the parameters behind those of the one before. -/
inductive AreFragments (params : List Parameter) : (first count : Nat) → List Expr → Prop
  | nil (first : Nat) : AreFragments params first 0 []
  | cons {first count more : Nat} {e : Expr} {rest : List Expr}
      (head : IsFragment params first count e)
      (tail : AreFragments params (first + count) more rest) :
      AreFragments params first (count + more) (e :: rest)

namespace IsFragment

variable {params : List Parameter} {first count : Nat} {e : Expr} {lower upper c : Comparison}

theorem numbers (h : IsFragment params first count e) :
    e.comparisons.map (·.param) = List.range' first count := by
  induction h with
  | value | day => rfl
  | search collection np below ih => exact ih

theorem not_isNull (h : IsFragment params first count e) {i : Nat} (hfirst : first ≤ i)
    (hlast : i < first + count) : ∃ p, params[i]? = some p ∧ p.isNull = false := by
  induction h with
  | value member np found notNull =>
    obtain rfl : i = first := by omega
    exact ⟨_, found, notNull⟩
  | day member np begins ends =>
    obtain rfl | rfl : i = first ∨ i = first + 1 := by omega
    · exact ⟨_, begins, rfl⟩
    · exact ⟨_, ends, rfl⟩
  | search collection np below ih => exact ih hlast

theorem no_empty_and (h : IsFragment params first count e) : ¬ Expr.Occurs (.and []) e := by
  intro hoccurs
  induction h with
  | value => cases hoccurs
  | day => cases hoccurs.eq_pair
  | search collection np below ih =>
    cases hoccurs with
    | any below => exact ih below

/-- A range of a fragment is the day that it tests. -/
theorem days (h : IsFragment params first count e) (hrange : e.HasRange lower upper) :
    ∃ start stop, params[lower.param]? = some (.dateTime start) ∧
      params[upper.param]? = some (.dateTime stop) ∧ start.nextDay? = some stop := by
  induction h with
  | value => cases hrange.occurs
  | day member np begins ends next =>
    cases hrange.occurs.eq_pair
    exact ⟨_, _, begins, ends, next⟩
  | search collection np below ih => exact ih hrange.of_any

theorem in_range (h : IsFragment params first count e) (hc : c ∈ e.comparisons) {t : DateTime}
    (ht : params[c.param]? = some (.dateTime t)) :
    ∃ lower upper, e.HasRange lower upper ∧ (c = lower ∨ c = upper) := by
  induction h with
  | value member np found notNull notTime =>
    obtain rfl := List.mem_singleton.mp hc
    rw [found] at ht
    cases ht
    cases notTime
  | day member np =>
    refine ⟨_, _, ⟨.here, rfl, rfl, rfl⟩, ?_⟩
    simpa [Expr.comparisons, Expr.comparisonsOf] using hc
  | search collection np below ih =>
    obtain ⟨lower, upper, hrange, hmem⟩ := ih hc
    exact ⟨lower, upper, hrange.any collection np, hmem⟩

theorem op_eq (h : IsFragment params first count (.compare c)) : c.op = .eq := by
  cases h
  rfl

end IsFragment

namespace AreFragments

variable {params : List Parameter} {first count : Nat} {exprs : List Expr}
  {lower upper c : Comparison}

theorem numbers (h : AreFragments params first count exprs) :
    (Expr.comparisonsOf exprs).map (·.param) = List.range' first count := by
  induction h with
  | nil first => rfl
  | cons head tail ih =>
    rw [Expr.comparisonsOf, List.map_append, head.numbers, ih, List.range'_append_1]

theorem not_isNull (h : AreFragments params first count exprs) {i : Nat} (hfirst : first ≤ i)
    (hlast : i < first + count) : ∃ p, params[i]? = some p ∧ p.isNull = false := by
  induction h with
  | nil first => omega
  | @cons first count more e rest head tail ih =>
    rcases Nat.lt_or_ge i (first + count) with hi | hi
    · exact head.not_isNull hfirst hi
    · exact ih hi (by omega)

theorem isFragment (h : AreFragments params first count exprs) {e : Expr} (he : e ∈ exprs) :
    ∃ first count, IsFragment params first count e := by
  induction h with
  | nil => cases he
  | cons head tail ih =>
    rcases List.mem_cons.mp he with rfl | he
    · exact ⟨_, _, head⟩
    · exact ih he

theorem no_empty_and (h : AreFragments params first count exprs) (hne : exprs ≠ []) :
    ¬ Expr.Occurs (.and []) (.conjunction exprs) := by
  intro hoccurs
  match exprs with
  | [] => exact hne rfl
  | [e] =>
    obtain ⟨_, _, hfragment⟩ := h.isFragment List.mem_cons_self
    exact hfragment.no_empty_and hoccurs
  | e :: f :: rest =>
    cases hoccurs with
    | and hpart hbelow =>
      obtain ⟨_, _, hfragment⟩ := h.isFragment hpart
      exact hfragment.no_empty_and hbelow

/-- No range is made of two fragments, as a fragment that is one comparison asks for equality. -/
theorem hasRange_conjunction (h : AreFragments params first count exprs)
    (hrange : (Expr.conjunction exprs).HasRange lower upper) :
    ∃ e ∈ exprs, e.HasRange lower upper := by
  match exprs with
  | [] =>
    cases hrange.occurs with
    | and hpart => cases hpart
  | [e] => exact ⟨e, List.mem_cons_self, hrange⟩
  | e :: f :: rest =>
    cases hrange.occurs with
    | here =>
      obtain ⟨_, _, hfragment⟩ := h.isFragment List.mem_cons_self
      cases hrange.ge.symm.trans hfragment.op_eq
    | and hpart hbelow => exact ⟨_, hpart, hbelow, hrange.ge, hrange.lt, hrange.member⟩

theorem days (h : AreFragments params first count exprs)
    (hrange : (Expr.conjunction exprs).HasRange lower upper) :
    ∃ start stop, params[lower.param]? = some (.dateTime start) ∧
      params[upper.param]? = some (.dateTime stop) ∧ start.nextDay? = some stop := by
  obtain ⟨e, he, hrange⟩ := h.hasRange_conjunction hrange
  obtain ⟨_, _, hfragment⟩ := h.isFragment he
  exact hfragment.days hrange

theorem in_range (h : AreFragments params first count exprs)
    (hc : c ∈ Expr.comparisonsOf exprs) {t : DateTime}
    (ht : params[c.param]? = some (.dateTime t)) :
    ∃ lower upper, (Expr.conjunction exprs).HasRange lower upper ∧ (c = lower ∨ c = upper) := by
  obtain ⟨e, he, hc⟩ := Expr.mem_comparisonsOf.mp hc
  obtain ⟨_, _, hfragment⟩ := h.isFragment he
  obtain ⟨lower, upper, hrange, hmem⟩ := hfragment.in_range hc ht
  refine ⟨lower, upper, ?_, hmem⟩
  match exprs with
  | [f] =>
    obtain rfl := List.mem_singleton.mp he
    exact hrange
  | [] | _ :: _ :: _ => exact hrange.and he

end AreFragments

/-! ## Composed filters -/

theorem Leaf.isFragment_along {params : List Parameter} {first count : Nat} {leaf : Leaf}
    (h : ∀ member np, IsFragment params first count (leaf.testOf member np)) (isRequired : Bool)
    (segments : List Segment) :
    IsFragment params first count (leaf.along isRequired [] segments) := by
  obtain ⟨rows, rest, hcut⟩ := exists_cutAtLists segments
  rw [leaf.along_eq_inside isRequired hcut, leaf.toExpr_eq, Expr.inside]
  induction rows.map Search.over with
  | nil => exact h _ _
  | cons s searches ih => exact .search s.collection s.nullPropagating ih

theorem FilterArgument.leaf_isFragment {a : FilterArgument} {value : Literal} {leaf : Leaf}
    {earlier params : List Parameter} (hvalue : value.isNull = false)
    (h : a.leaf value earlier.length = .ok (leaf, params)) (later : List Parameter)
    (member : MemberPath) (np : Bool) :
    IsFragment (earlier ++ (params ++ later)) earlier.length params.length
      (leaf.testOf member np) := by
  rcases leaf_cases h with ⟨param, -, hparam, rfl, rfl⟩ | ⟨start, stop, -, hstop, rfl, rfl⟩
  · refine .value member np ?_ (ofLiteral_isNull hvalue hparam) (ofLiteral_isTemporal hparam)
    simp
  · refine .day member np ?_ ?_ hstop
    · simp
    · rw [List.getElem?_append_right (Nat.le_add_right _ 1)]
      simp

namespace Compose

variable {arguments : ArgumentList} {request : RequestArguments}

theorem areFragments {filters : List FilterArgument} {exprs : List Expr}
    {earlier params : List Parameter}
    (h : fragments request earlier.length filters = .ok (exprs, params))
    (later : List Parameter) :
    AreFragments (earlier ++ (params ++ later)) earlier.length params.length exprs := by
  induction filters generalizing earlier exprs params with
  | nil =>
    cases h
    exact .nil _
  | cons a rest ih =>
    cases hsupplied : request.supplied? a.graphPath with
    | none =>
      rw [fragments, hsupplied] at h
      exact ih h
    | some value =>
      obtain ⟨leaf, own, others, more, hleaf, hrest, rfl, rfl⟩ := (fragments_some hsupplied).mp h
      rw [← List.length_append] at hrest
      have hothers := ih hrest
      rw [List.append_assoc, List.length_append, ← List.append_assoc own] at hothers
      rw [List.length_append]
      refine .cons (leaf.isFragment_along ?_ a.isRequired a.path.segments) hothers
      rw [List.append_assoc]
      exact FilterArgument.leaf_isFragment (supplied?_isNull hsupplied) hleaf (more ++ later)

end Compose

/-- The comparisons of a filter count its parameters, and its points in time are bounds of days. -/
structure Filter.WellNumbered (f : Filter) : Prop where
  /-- From left to right, each parameter has one comparison. -/
  numbers : f.expr.comparisons.map (·.param) = List.range f.params.length
  bound : f.expr.BoundIn f.params
  never_unbound : ∀ row i, f.eval row ≠ .error (.unboundParameter i)
  no_empty_and : ¬ Expr.Occurs (.and []) f.expr
  times : ∀ c ∈ f.expr.comparisons,
    (∃ t, f.params[c.param]? = some (.dateTime t)) ↔
      ∃ lower upper, f.expr.HasRange lower upper ∧ (c = lower ∨ c = upper)
  days : ∀ lower upper, f.expr.HasRange lower upper →
    ∃ start stop, f.params[lower.param]? = some (.dateTime start) ∧
      f.params[upper.param]? = some (.dateTime stop) ∧ start.nextDay? = some stop ∧
      start.compare stop = .lt
  not_null : ∀ p ∈ f.params, p.isNull = false

theorem AreFragments.wellNumbered {exprs : List Expr} {params : List Parameter} (hne : exprs ≠ [])
    (h : AreFragments params 0 params.length exprs) :
    Filter.WellNumbered ⟨.conjunction exprs, params⟩ := by
  have hnumbers : (Expr.conjunction exprs).comparisons.map (·.param) =
      List.range params.length := by
    rw [Expr.comparisons_conjunction, h.numbers, List.range_eq_range']
  have hbound : (Expr.conjunction exprs).BoundIn params := by
    intro c hc
    rw [← List.mem_range, ← hnumbers]
    exact List.mem_map_of_mem hc
  refine ⟨hnumbers, hbound, fun row i => Expr.eval_ne_unbound _ hbound row, h.no_empty_and hne,
    ?_, ?_, ?_⟩
  · intro c hc
    constructor
    · rintro ⟨t, ht⟩
      rw [Expr.comparisons_conjunction] at hc
      exact h.in_range hc ht
    · rintro ⟨lower, upper, hrange, hmem⟩
      obtain ⟨start, stop, hstart, hstop, -⟩ := h.days hrange
      rcases hmem with rfl | rfl
      · exact ⟨start, hstart⟩
      · exact ⟨stop, hstop⟩
  · intro lower upper hrange
    obtain ⟨start, stop, hstart, hstop, hnext⟩ := h.days hrange
    exact ⟨start, stop, hstart, hstop, hnext, DateTime.compare_nextDay? hnext⟩
  · intro p hp
    obtain ⟨i, hi, rfl⟩ := List.getElem_of_mem hp
    obtain ⟨q, hq, hnull⟩ := h.not_isNull (Nat.zero_le i) (by rwa [Nat.zero_add])
    rw [List.getElem?_eq_getElem hi, Option.some.injEq] at hq
    rwa [hq]

namespace Compose

/-- Every filter that a request composes counts its parameters from left to right. -/
theorem composed_filter_wellNumbered {arguments : ArgumentList} {request : RequestArguments}
    {f : Filter} (h : filter? arguments request = .ok (some f)) : f.WellNumbered := by
  rw [filter?, bind_eq_ok] at h
  obtain ⟨⟨exprs, params⟩, hfragments, h⟩ := h
  have hall : AreFragments ([] ++ (params ++ [])) 0 params.length exprs :=
    areFragments hfragments []
  rw [List.nil_append, List.append_nil] at hall
  cases exprs with
  | nil => cases h
  | cons e rest =>
    cases h
    exact hall.wellNumbered (List.cons_ne_nil e rest)

theorem annOnThird_wellNumbered :
    filter? stayArguments annOnThird = .ok (some annOnThirdFilter) ∧
      annOnThirdFilter.expr.comparisons.map (·.param) = [0, 1, 2] ∧
      annOnThirdFilter.WellNumbered := by
  have hf : filter? stayArguments annOnThird = .ok (some annOnThirdFilter) := by cbv
  exact ⟨hf, rfl, composed_filter_wellNumbered hf⟩

end Compose

end FieldQuery
