import Mathlib
import FieldQuery.Compose.Filter
import FieldQuery.Proofs.Query.Evaluation

/-!
# What a composed filter means

A filter holds of a document exactly when, for each supplied argument, some leaf behind its entity
path passes its test.
-/

namespace FieldQuery

/-! ## The test at a leaf -/

namespace Leaf

def Bound (params : List Parameter) : Leaf → Prop
  | .equal param => param < params.length
  | .between start stop => start < params.length ∧ stop < params.length

def test (params : List Parameter) : Leaf → Json → Bool
  | .equal param, v => params[param]?.any (CompareOp.eq.holds v)
  | .between start stop, v =>
    params[start]?.any (CompareOp.ge.holds v) && params[stop]?.any (CompareOp.lt.holds v)

/-- The test of a path without lists propagates nulls in this case. -/
def propagates (isRequired : Bool) (segments : List Segment) : Bool :=
  !isRequired || segments.dropLast.any (·.isNullable)

theorem eval_toExpr {params : List Parameter} {leaf : Leaf} (h : leaf.Bound params)
    (segments : List Segment) (isRequired : Bool) (scope : Json) :
    (leaf.toExpr segments isRequired).eval params scope =
      ((MemberPath.ofSegments segments).access (propagates isRequired segments) scope).map
        (leaf.test params) := by
  cases leaf with
  | equal param =>
    have hparam := List.getElem?_eq_getElem h
    have htest : test params (.equal param) = (CompareOp.eq.holds · params[param]) := by
      funext v
      simp [test, hparam]
    rw [toExpr, Expr.eval_compare_bound hparam, htest]
    rfl
  | between start stop =>
    have hstart : start < params.length := h.1
    have hstop : stop < params.length := h.2
    have htest : test params (.between start stop) = fun v =>
        CompareOp.ge.holds v params[start] && CompareOp.lt.holds v params[stop] := by
      funext v
      simp [test, hstart, hstop]
    rw [toExpr, Expr.eval, Expr.evalAll_cons, Expr.evalAll_cons, Expr.evalAll,
      Expr.eval_compare_bound (List.getElem?_eq_getElem hstart),
      Expr.eval_compare_bound (List.getElem?_eq_getElem hstop), htest, propagates]
    -- Both bounds are about the same access.
    generalize (MemberPath.ofSegments segments).access _ scope = found
    cases found with
    | error e => rfl
    | ok v =>
      simp only [Except.map, bind, Except.bind]
      cases CompareOp.ge.holds v params[start] <;> cases CompareOp.lt.holds v params[stop] <;> rfl

/-! ## The test along a path -/

theorem along_append (leaf : Leaf) (isRequired : Bool) {lead : List Segment} (hlead : Single lead)
    (seen rest : List Segment) :
    leaf.along isRequired seen (lead ++ rest) = leaf.along isRequired (seen ++ lead) rest := by
  induction lead generalizing seen with
  | nil => simp
  | cons s lead ih =>
    obtain ⟨hs, hrest⟩ := single_cons.mp hlead
    rw [List.cons_append, along, if_neg (by simp [hs]), ih hrest, List.append_cons seen s lead]

theorem along_single (leaf : Leaf) (isRequired : Bool) {lead : List Segment}
    (hlead : Single lead) : leaf.along isRequired [] lead = leaf.toExpr lead isRequired := by
  have h := along_append leaf isRequired hlead [] []
  simpa [along] using h

theorem along_list (leaf : Leaf) (isRequired : Bool) {lead : List Segment} (hlead : Single lead)
    {s : Segment} (hs : s.isList = true) (rest : List Segment) :
    leaf.along isRequired [] (lead ++ s :: rest) =
      .any (.ofSegments (lead ++ [s])) (lead.any (·.isNullable))
        (leaf.along isRequired [] rest) := by
  rw [along_append leaf isRequired hlead, along, if_pos hs, List.nil_append]

/-- One search for each list on the path finds a leaf that passes, if there is one. -/
theorem eval_along_ok {params : List Parameter} {leaf : Leaf} (hbound : leaf.Bound params)
    (hnull : leaf.test params .null = false) (isRequired : Bool) {segments : List Segment}
    {scope : Json} {b : Bool}
    (h : (leaf.along isRequired [] segments).eval params scope = .ok b) :
    b = true ↔ ∃ v, Reaches segments scope v ∧ leaf.test params v = true := by
  induction segments using scopes_induction generalizing scope b with
  | single lead hlead =>
    rw [along_single leaf isRequired hlead, eval_toExpr hbound, map_eq_ok] at h
    obtain ⟨v, hv, rfl⟩ := h
    simp only [reaches_single hlead]
    rw [MemberPath.access_ok hv, MemberPath.ofSegments]
    cases scope.at? (lead.flatMap Segment.members) with
    | none => simp [hnull]
    | some next => simp
  | list lead s rest hlead hs ih =>
    rw [along_list leaf isRequired hlead hs, Expr.eval_any, bind_eq_ok] at h
    obtain ⟨v, hv, h⟩ := h
    simp only [reaches_list hlead hs]
    cases v with
    | array items =>
      have hat : scope.at? ((lead ++ [s]).flatMap Segment.members) = some (.array items) :=
        MemberPath.at?_of_access_ok hv rfl
      simp only [hat, Option.some.injEq, Json.array.injEq]
      cases b with
      | true =>
        obtain ⟨item, hitem, htest⟩ := Expr.anyElement_true h
        obtain ⟨leafValue, hreach, hpass⟩ := (ih htest).mp rfl
        simp only [true_iff]
        exact ⟨leafValue, ⟨items, rfl, item, hitem, hreach⟩, hpass⟩
      | false =>
        simp only [Bool.false_eq_true, false_iff]
        rintro ⟨leafValue, ⟨_, rfl, item, hitem, hreach⟩, hpass⟩
        have htest := Expr.anyElement_false_iff.mp h item hitem
        exact absurd ((ih htest).mpr ⟨leafValue, hreach, hpass⟩) (by simp)
    | null =>
      simp only [Expr.searchIn, Except.ok.injEq] at h
      simp only [← h, Bool.false_eq_true, false_iff]
      rintro ⟨leafValue, ⟨items, hat, -⟩, -⟩
      have hvalue := MemberPath.access_ok hv
      rw [MemberPath.ofSegments, hat] at hvalue
      cases hvalue
    | boolean | number | string | object => simp [Expr.searchIn] at h

end Leaf

/-! ## The test of an argument -/

namespace FilterArgument

/-- The time that begins the day a value means, if it is one for a date. -/
def dayStart? (a : FilterArgument) : Literal → Option DateTime
  | .string text => if a.type.isDate then DateTime.read? text else none
  | _ => none

/-- A stored value passes if its time is on the day that the argument's value begins, or, for no
day, if it compares equal to the value. -/
def Passes (a : FilterArgument) (value : Literal) (leaf : Json) : Prop :=
  match a.dayStart? value with
  | some start =>
    ∃ text t stop, leaf = .string text ∧ DateTime.read? text = some t ∧
      start.nextDay? = some stop ∧ t.compare start ≠ .lt ∧ t.compare stop = .lt
  | none =>
    ∃ param, Parameter.ofLiteral a.graphPath value = .ok param ∧ leaf.compare? param = some .eq

/-- Some leaf behind the path of the argument passes. -/
def Matches (a : FilterArgument) (value : Literal) (row : Json) : Prop :=
  ∃ leaf, Reaches a.path.segments row leaf ∧ a.Passes value leaf

theorem null_compare? (param : Parameter) : Json.null.compare? param = none := by
  cases param <;> simp [Json.compare?]

theorem not_passes_null (a : FilterArgument) (value : Literal) : ¬ a.Passes value .null := by
  unfold Passes
  split
  · rintro ⟨text, t, stop, htext, -⟩
    cases htext
  · rintro ⟨param, -, h⟩
    rw [null_compare?] at h
    cases h

/-- The numbered test does for an argument what its value asks. -/
structure TestFor (params : List Parameter) (a : FilterArgument) (value : Literal)
    (leaf : Leaf) : Prop where
  bound : leaf.Bound params
  passes : ∀ v, leaf.test params v = true ↔ a.Passes value v

theorem ge_holds_dateTime (v : Json) (t : DateTime) :
    CompareOp.ge.holds v (.dateTime t) = true ↔
      ∃ text s, v = .string text ∧ DateTime.read? text = some s ∧ s.compare t ≠ .lt := by
  cases v with
  | string text =>
    simp only [CompareOp.holds, Json.compare?, Json.string.injEq, exists_and_left,
      exists_eq_left']
    cases DateTime.read? text with
    | none => simp
    | some s => cases hs : s.compare t <;> simp [hs]
  | null | boolean | number | array | object => simp [CompareOp.holds, Json.compare?]

theorem lt_holds_dateTime (text : String) (t : DateTime) :
    CompareOp.lt.holds (.string text) (.dateTime t) = true ↔
      ∃ s, DateTime.read? text = some s ∧ s.compare t = .lt := by
  simp only [CompareOp.holds, Json.compare?]
  cases DateTime.read? text <;> simp

theorem eq_holds {param : Parameter} (hparam : param.isNull = false) (v : Json) :
    CompareOp.eq.holds v param = true ↔ v.compare? param = some .eq := by
  simp [CompareOp.holds, hparam]

theorem ofLiteral_isNull {argument : String} {value : Literal} {param : Parameter}
    (hvalue : value.isNull = false) (h : Parameter.ofLiteral argument value = .ok param) :
    param.isNull = false := by
  cases value with
  | null => cases hvalue
  | list items =>
    rw [Parameter.ofLiteral, map_eq_ok] at h
    obtain ⟨params, -, rfl⟩ := h
    rfl
  | number n =>
    simp only [Parameter.ofLiteral, Except.ok.injEq] at h
    subst h
    unfold Parameter.ofNumber
    split <;> rfl
  | boolean | string | enumeration =>
    simp only [Parameter.ofLiteral, Except.ok.injEq] at h
    subst h
    rfl
  | object | binary => simp [Parameter.ofLiteral] at h

theorem day?_ok {a : FilterArgument} {value : Literal} {day : Option (DateTime × DateTime)}
    (h : a.day? value = .ok day) :
    (day = none ∧ a.dayStart? value = none) ∨
      ∃ start stop, day = some (start, stop) ∧ a.dayStart? value = some start ∧
        start.nextDay? = some stop := by
  cases value with
  | string text =>
    unfold day? at h
    unfold dayStart?
    cases hdate : a.type.isDate with
    | false =>
      simp only [hdate, Bool.false_eq_true, if_false, Except.ok.injEq] at h
      simp [← h]
    | true =>
      simp only [hdate, if_true] at h ⊢
      cases hread : DateTime.read? text with
      | none =>
        simp only [hread, Except.ok.injEq] at h
        simp [← h]
      | some start =>
        simp only [hread] at h
        cases hstop : start.nextDay? with
        | none => simp [hstop] at h
        | some stop =>
          simp only [hstop, Except.ok.injEq] at h
          exact Or.inr ⟨start, stop, h.symm, rfl, hstop⟩
  | null | boolean | number | enumeration | binary | list | object =>
    simp only [day?, Except.ok.injEq] at h
    simp [dayStart?, ← h]

/-- A value is compared with, or the bounds of the day that it begins. -/
theorem leaf_cases {a : FilterArgument} {value : Literal} {first : Nat} {leaf : Leaf}
    {params : List Parameter} (h : a.leaf value first = .ok (leaf, params)) :
    (∃ param, a.dayStart? value = none ∧ Parameter.ofLiteral a.graphPath value = .ok param ∧
      leaf = .equal first ∧ params = [param]) ∨
    ∃ start stop, a.dayStart? value = some start ∧ start.nextDay? = some stop ∧
      leaf = .between first (first + 1) ∧ params = [.dateTime start, .dateTime stop] := by
  unfold FilterArgument.leaf at h
  rw [bind_eq_ok] at h
  obtain ⟨day, hday, h⟩ := h
  rcases day?_ok hday with ⟨rfl, hstart⟩ | ⟨start, stop, rfl, hstart, hstop⟩
  · simp only [bind_eq_ok] at h
    obtain ⟨param, hparam, h⟩ := h
    cases h
    exact Or.inl ⟨param, hstart, hparam, rfl, rfl⟩
  · cases h
    exact Or.inr ⟨start, stop, hstart, hstop, rfl, rfl⟩

/-- The leaf is tested with its own parameters, wherever they stand among all. -/
theorem leaf_spec {a : FilterArgument} {value : Literal} {leaf : Leaf}
    {earlier params : List Parameter} (hvalue : value.isNull = false)
    (h : a.leaf value earlier.length = .ok (leaf, params)) (later : List Parameter) :
    TestFor (earlier ++ (params ++ later)) a value leaf := by
  rcases leaf_cases h with
    ⟨param, hstart, hparam, rfl, rfl⟩ | ⟨start, stop, hstart, hstop, rfl, rfl⟩
  · have hnull := ofLiteral_isNull hvalue hparam
    refine ⟨by simp [Leaf.Bound], ?_⟩
    intro v
    simp only [Leaf.test, Passes, hstart, hparam, Except.ok.injEq, exists_eq_left']
    simp [eq_holds hnull]
  · refine ⟨by simp [Leaf.Bound], ?_⟩
    intro v
    have hsecond : (earlier ++ ([Parameter.dateTime start, .dateTime stop] ++ later))[
        earlier.length + 1]? = some (.dateTime stop) := by
      rw [List.getElem?_append_right (by omega)]
      simp
    simp only [Leaf.test, Passes, hstart, hstop, Option.some.injEq, Bool.and_eq_true, hsecond,
      Option.any_some]
    simp only [List.cons_append, List.getElem?_append_right (Nat.le_refl _), Nat.sub_self,
      List.getElem?_cons_zero, Option.any_some, ge_holds_dateTime]
    constructor
    · rintro ⟨⟨text, t, rfl, ht, hge⟩, hlt⟩
      obtain ⟨t', ht', hlt⟩ := (lt_holds_dateTime text stop).mp hlt
      obtain rfl : t = t' := Option.some.inj (ht.symm.trans ht')
      exact ⟨text, t, stop, rfl, ht, rfl, hge, hlt⟩
    · rintro ⟨text, t, _, rfl, ht, rfl, hge, hlt⟩
      exact ⟨⟨text, t, rfl, ht, hge⟩, (lt_holds_dateTime text stop).mpr ⟨t, ht, hlt⟩⟩

end FilterArgument

/-! ## All supplied arguments -/

namespace Compose

/-- The filters that a request supplies, each with its value. -/
def suppliedFilters (request : RequestArguments) (filters : List FilterArgument) :
    List (FilterArgument × Literal) :=
  filters.filterMap fun a => (request.supplied? a.graphPath).map (a, ·)

theorem mem_suppliedFilters {request : RequestArguments} {filters : List FilterArgument}
    {a : FilterArgument} {value : Literal} :
    (a, value) ∈ suppliedFilters request filters ↔
      a ∈ filters ∧ request.supplied? a.graphPath = some value := by
  simp only [suppliedFilters, List.mem_filterMap, Option.map_eq_some_iff, Prod.mk.injEq]
  constructor
  · rintro ⟨c, hc, v, hv, rfl, rfl⟩
    exact ⟨hc, hv⟩
  · rintro ⟨ha, hv⟩
    exact ⟨a, ha, value, hv, rfl, rfl⟩

theorem supplied?_isNull {request : RequestArguments} {name : String} {value : Literal}
    (h : request.supplied? name = some value) : value.isNull = false := by
  unfold RequestArguments.supplied? at h
  rw [Option.filter_eq_some_iff] at h
  simpa using h.2

/-- The expression is the test of the supplied value along the path of its argument. -/
def Tests (params : List Parameter) (supplied : FilterArgument × Literal) (expr : Expr) : Prop :=
  ∃ leaf : Leaf, expr = leaf.along supplied.1.isRequired [] supplied.1.path.segments ∧
    FilterArgument.TestFor params supplied.1 supplied.2 leaf

theorem fragments_spec {request : RequestArguments} {filters : List FilterArgument}
    {exprs : List Expr} {earlier params : List Parameter}
    (h : fragments request earlier.length filters = .ok (exprs, params))
    (later : List Parameter) :
    List.Forall₂ (Tests (earlier ++ (params ++ later))) (suppliedFilters request filters)
      exprs := by
  induction filters generalizing earlier exprs params later with
  | nil =>
    simp only [fragments, Except.ok.injEq, Prod.mk.injEq] at h
    rw [← h.1]
    exact .nil
  | cons a rest ih =>
    rw [fragments] at h
    rw [suppliedFilters, List.filterMap_cons]
    cases hsupplied : request.supplied? a.graphPath with
    | none =>
      simp only [hsupplied] at h
      exact ih h later
    | some value =>
      simp only [hsupplied, FilterArgument.fragment, bind_eq_ok, pure, Except.pure, Except.ok.injEq,
        Prod.exists, Prod.mk.injEq] at h
      obtain ⟨expr, first, ⟨leaf, _, hleaf, rfl, rfl⟩, others, restParams, hrest, rfl, rfl⟩ := h
      have htest := FilterArgument.leaf_spec (supplied?_isNull hsupplied) hleaf
        (restParams ++ later)
      rw [← List.length_append] at hrest
      have hothers := ih hrest later
      rw [List.append_assoc] at hothers
      rw [List.append_assoc]
      exact .cons ⟨leaf, rfl, htest⟩ hothers

/-- The filter of a request is the conjunction of one test for each supplied argument. -/
theorem filter?_spec {arguments : ArgumentList} {request : RequestArguments} {f : Filter}
    (h : filter? arguments request = .ok (some f)) :
    ∃ exprs, f.expr = .conjunction exprs ∧
      List.Forall₂ (Tests f.params) (suppliedFilters request arguments.filters) exprs := by
  rw [filter?, bind_eq_ok] at h
  obtain ⟨⟨exprs, params⟩, hfragments, h⟩ := h
  have hspec : List.Forall₂ (Tests ([] ++ (params ++ []))) _ exprs := fragments_spec hfragments []
  rw [List.nil_append, List.append_nil] at hspec
  split at h
  · cases h
  · rename_i heq
    cases heq
    simp only [pure, Except.pure, Except.ok.injEq, Option.some.injEq] at h
    rw [← h]
    exact ⟨_, rfl, hspec⟩

theorem tests_ok {params : List Parameter} {supplied : FilterArgument × Literal} {expr : Expr}
    (htest : Tests params supplied expr) {row : Json} {b : Bool}
    (h : expr.eval params row = .ok b) : b = true ↔ supplied.1.Matches supplied.2 row := by
  obtain ⟨leaf, rfl, hleaf⟩ := htest
  have hnull : leaf.test params .null = false := by
    rw [Bool.eq_false_iff, ne_eq, hleaf.passes]
    exact FilterArgument.not_passes_null _ _
  rw [Leaf.eval_along_ok hleaf.bound hnull _ h, FilterArgument.Matches]
  simp only [hleaf.passes]

theorem evalAll_tests_ok {params : List Parameter} {supplied : List (FilterArgument × Literal)}
    {exprs : List Expr} (htests : List.Forall₂ (Tests params) supplied exprs) {row : Json}
    {b : Bool} (h : Expr.evalAll params exprs row = .ok b) :
    b = true ↔ ∀ pair ∈ supplied, pair.1.Matches pair.2 row := by
  induction htests generalizing b with
  | nil =>
    simp only [Expr.evalAll, Except.ok.injEq] at h
    simp [← h]
  | cons htest _ ih =>
    rw [Expr.evalAll_cons, bind_eq_ok] at h
    obtain ⟨holds, hfirst, h⟩ := h
    rw [List.forall_mem_cons, ← tests_ok htest hfirst]
    cases holds with
    | true => simpa using ih h
    | false =>
      simp only [Bool.false_eq_true, if_false, Except.ok.injEq] at h
      simp [← h]

/-- Where a composed filter can be evaluated, it holds of the rows in which every supplied argument
reaches a leaf that passes its test. -/
theorem filter_holds_iff_matches {arguments : ArgumentList} {request : RequestArguments}
    {f : Filter} (hf : filter? arguments request = .ok (some f)) {row : Json} {b : Bool}
    (h : f.eval row = .ok b) :
    b = true ↔ ∀ a ∈ arguments.filters, ∀ value,
      request.supplied? a.graphPath = some value → a.Matches value row := by
  obtain ⟨exprs, hexpr, htests⟩ := filter?_spec hf
  rw [Filter.eval, hexpr, Expr.eval_conjunction] at h
  rw [evalAll_tests_ok htests h]
  constructor
  · intro hall a ha value hvalue
    exact hall (a, value) (mem_suppliedFilters.mpr ⟨ha, hvalue⟩)
  · rintro hall ⟨a, value⟩ hpair
    obtain ⟨ha, hvalue⟩ := mem_suppliedFilters.mp hpair
    exact hall a ha value hvalue

/-! ### A stay of Ann's on the third of February -/

def guestName : FilterArgument where
  graphPath := "Guest"
  path := ⟨[⟨"Rooms", true, true⟩, ⟨"Guests", true, false⟩, ⟨"Name", false, false⟩]⟩
  path_ne := by simp
  type := .scalar .string
  isRequired := true

def checkinDay : FilterArgument where
  graphPath := "Day"
  path := ⟨[⟨"Checkin.Date", false, true⟩]⟩
  path_ne := by simp
  type := .scalar .date
  isRequired := false

def stayArguments : ArgumentList :=
  .ofDescriptors [⟨.filter guestName, none⟩, ⟨.filter checkinDay, none⟩]

def annOnThird : RequestArguments :=
  ⟨[("day", .string "2019-02-03"), ("guest", .string "Ann")]⟩

def annOnThirdFilter : Filter where
  expr :=
    .and [.any ⟨["Rooms"]⟩ false (.any ⟨["Guests"]⟩ false (.compare ⟨⟨["Name"]⟩, .eq, 0, false⟩)),
      .and [.compare ⟨⟨["Checkin", "Date"]⟩, .ge, 1, true⟩,
        .compare ⟨⟨["Checkin", "Date"]⟩, .lt, 2, true⟩]]
  params :=
    [.string "Ann", .dateTime ⟨⟨2019, 2, 3, by decide, by decide, by decide⟩, .midnight⟩,
      .dateTime ⟨⟨2019, 2, 4, by decide, by decide, by decide⟩, .midnight⟩]

/-- The day ends with a leap second, and only the last guest of the second room is Ann. -/
def annsStay : Json :=
  .object
    [("Checkin", .object [("Date", .string "2019-02-03T23:59:60")]),
      ("Rooms",
        .array
          [.object [("Guests", .null)],
            .object
              [("Guests", .array [.object [("Name", .string "Bo")],
                .object [("Name", .string "Ann")]])]])]

theorem annsStay_matches :
    filter? stayArguments annOnThird = .ok (some annOnThirdFilter) ∧
      annOnThirdFilter.eval annsStay = .ok true ∧
      ∀ a ∈ stayArguments.filters, ∀ value,
        annOnThird.supplied? a.graphPath = some value → a.Matches value annsStay := by
  have hf : filter? stayArguments annOnThird = .ok (some annOnThirdFilter) := by cbv
  have h : annOnThirdFilter.eval annsStay = .ok true := by rfl
  exact ⟨hf, h, (filter_holds_iff_matches hf h).mp rfl⟩

end Compose

end FieldQuery
