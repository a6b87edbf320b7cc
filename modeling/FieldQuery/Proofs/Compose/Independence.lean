import Mathlib
import FieldQuery.Compose.Plan
import FieldQuery.Proofs.Compose.Filter
import FieldQuery.Query.Documents

/-!
# Values and statements

Two requests that differ only in the values they filter by ask with the same statement. Whether a
value begins a day is all that the statement shows of it.
-/

namespace FieldQuery

/-! ## Filters and runs of steps -/

/-- The same test, with points in time at the same places among the parameters. -/
structure Filter.Alike (f g : Filter) : Prop where
  expr : f.expr = g.expr
  temporal : f.params.map Parameter.isTemporal = g.params.map Parameter.isTemporal

theorem Filter.Alike.length_params {f g : Filter} (h : f.Alike g) :
    f.params.length = g.params.length := by
  have hlength := congrArg List.length h.temporal
  simpa only [List.length_map] using hlength

inductive Step.Alike : Step → Step → Prop
  | filter {f g : Filter} (h : f.Alike g) : Alike (.filter f) (.filter g)
  | same (s : Step) : Alike s s

namespace Condition

variable {params params' : List Parameter}

theorem any_isTemporal (params : List Parameter) (i : Nat) :
    params[i]?.any Parameter.isTemporal = (params.map Parameter.isTemporal)[i]?.any id := by
  rw [List.getElem?_map, Option.any_map]
  rfl

mutual

theorem ofExpr_congr (h : params.map Parameter.isTemporal = params'.map Parameter.isTemporal)
    (base : Nat) (e : Expr) (document : DocumentRef) (last : Nat) :
    ofExpr params base e document last = ofExpr params' base e document last := by
  match e with
  | .compare c =>
    rw [ofExpr, ofExpr, any_isTemporal params, any_isTemporal params', h]
  | .any collection np predicate =>
    rw [ofExpr, ofExpr, ofExpr_congr h base predicate]
  | .and parts =>
    rw [ofExpr, ofExpr, ofExprs_congr h base parts]

theorem ofExprs_congr (h : params.map Parameter.isTemporal = params'.map Parameter.isTemporal)
    (base : Nat) (parts : List Expr) (document : DocumentRef) (last : Nat) :
    ofExprs params base parts document last = ofExprs params' base parts document last := by
  match parts with
  | [] => rw [ofExprs, ofExprs]
  | part :: rest =>
    rw [ofExprs, ofExprs, ofExpr_congr h base part]
    simp only [ofExprs_congr h base rest]

end

end Condition

namespace DocumentQuery

structure SameText (q r : DocumentQuery) : Prop where
  statement : q.statement = r.statement
  params : q.params.length = r.params.length
  lastNumber : q.lastNumber = r.lastNumber

variable {q r : DocumentQuery}

theorem SameText.clauses (h : SameText q r) : q.clauses = r.clauses :=
  congrArg Statement.clauses h.statement

theorem sameText_withClauses (h : SameText q r) {c d : Clauses} (hclauses : c = d) :
    SameText (q.withClauses c) (r.withClauses d) where
  statement := by rw [withClauses, withClauses, h.statement, hclauses]
  params := h.params
  lastNumber := h.lastNumber

theorem sameText_unpaged (h : SameText q r) : SameText q.unpaged r.unpaged := by
  unfold unpaged
  rw [h.clauses]
  split
  · refine ⟨?_, h.params, ?_⟩
    · rw [nested, nested, h.clauses, h.statement, h.lastNumber]
    · rw [nested, nested, h.lastNumber]
  · exact h

theorem sameText_filter (h : SameText q r) {f g : Filter} (hfilter : f.Alike g) :
    SameText (q.filter f) (r.filter g) := by
  have hunpaged := sameText_unpaged h
  unfold filter
  generalize q.unpaged = u at hunpaged ⊢
  generalize r.unpaged = v at hunpaged ⊢
  have hcondition :
      Condition.ofExpr f.params u.params.length f.expr .column u.lastNumber =
        Condition.ofExpr g.params v.params.length g.expr .column v.lastNumber := by
    rw [hfilter.expr, hunpaged.params, hunpaged.lastNumber]
    exact Condition.ofExpr_congr hfilter.temporal _ _ _ _
  refine ⟨(sameText_withClauses hunpaged ?_).statement, ?_, congrArg Prod.snd hcondition⟩
  · rw [hcondition, hunpaged.clauses]
  · simp only [List.length_append]
    rw [hunpaged.params, hfilter.length_params]

theorem sameText_step (h : SameText q r) {s t : Step} (hstep : s.Alike t) :
    SameText (q.applyStep s) (r.applyStep t) := by
  cases hstep with
  | filter hfilter => exact sameText_filter h hfilter
  | same s =>
    cases s with
    | filter f => exact sameText_filter h ⟨rfl, rfl⟩
    | orderBy keys =>
      rw [applyStep, applyStep, orderBy, orderBy]
      split
      · exact h
      · have hunpaged := sameText_unpaged h
        exact sameText_withClauses hunpaged (by rw [hunpaged.clauses])
    | skip count => exact sameText_withClauses h (by rw [h.clauses])
    | take count => exact sameText_withClauses h (by rw [h.clauses])

theorem sameText_run (h : SameText q r) {steps others : List Step}
    (hsteps : List.Forall₂ Step.Alike steps others) :
    SameText (steps.foldl Queryable.apply q) (others.foldl Queryable.apply r) := by
  induction hsteps generalizing q r with
  | nil => exact h
  | cons hstep _ ih => exact ih (sameText_step h hstep)

end DocumentQuery

/-! ## Requests -/

/-- Whether the value begins a day if it is supplied for a date. -/
def Literal.isTime : Literal → Bool
  | .string text => (DateTime.read? text).isSome
  | _ => false

namespace Compose

/-- The requests supply the same filters, times for the same dates, and agree on order and page. -/
structure AskAlike (arguments : ArgumentList) (r s : RequestArguments) : Prop where
  supplied : ∀ a ∈ arguments.filters,
    (r.supplied? a.graphPath).isSome = (s.supplied? a.graphPath).isSome
  times : ∀ a ∈ arguments.filters, a.type.isDate = true →
    (r.supplied? a.graphPath).any Literal.isTime = (s.supplied? a.graphPath).any Literal.isTime
  others : ∀ kind, kind ≠ .filter → ∀ d, arguments.firstOf? kind = some d →
    r.get? d.name = s.get? d.name

end Compose

namespace FilterArgument

theorem isSome_dayStart? (a : FilterArgument) (value : Literal) :
    (a.dayStart? value).isSome = (a.type.isDate && value.isTime) := by
  cases value with
  | string text =>
    unfold dayStart? Literal.isTime
    cases a.type.isDate <;> simp
  | null | boolean | number | enumeration | binary | list | object =>
    simp [dayStart?, Literal.isTime]

theorem ofLiteral_isTemporal {argument : String} {value : Literal} {param : Parameter}
    (h : Parameter.ofLiteral argument value = .ok param) : param.isTemporal = false := by
  cases value with
  | list items =>
    rw [Parameter.ofLiteral, map_eq_ok] at h
    obtain ⟨params, -, rfl⟩ := h
    rfl
  | number n =>
    simp only [Parameter.ofLiteral, Except.ok.injEq] at h
    subst h
    unfold Parameter.ofNumber
    split <;> rfl
  | null | boolean | string | enumeration =>
    simp only [Parameter.ofLiteral, Except.ok.injEq] at h
    subst h
    rfl
  | object | binary => simp [Parameter.ofLiteral] at h

theorem leaf_ok {a : FilterArgument} {value : Literal} {first : Nat} {leaf : Leaf}
    {params : List Parameter} (h : a.leaf value first = .ok (leaf, params)) :
    ((a.dayStart? value).isSome = false ∧ leaf = .equal first ∧
      params.map Parameter.isTemporal = [false]) ∨
    ((a.dayStart? value).isSome = true ∧ leaf = .between first (first + 1) ∧
      params.map Parameter.isTemporal = [true, true]) := by
  rcases leaf_cases h with ⟨param, hstart, hparam, rfl, rfl⟩ | ⟨start, stop, hstart, -, rfl, rfl⟩
  · refine Or.inl ⟨by rw [hstart, Option.isSome_none], rfl, ?_⟩
    rw [List.map_singleton, ofLiteral_isTemporal hparam]
  · exact Or.inr ⟨by rw [hstart, Option.isSome_some], rfl, rfl⟩

theorem leaf_congr {a : FilterArgument} {v w : Literal} {first : Nat} {leaf leaf' : Leaf}
    {params params' : List Parameter} (hv : a.leaf v first = .ok (leaf, params))
    (hw : a.leaf w first = .ok (leaf', params'))
    (h : (a.dayStart? v).isSome = (a.dayStart? w).isSome) :
    leaf = leaf' ∧ params.map Parameter.isTemporal = params'.map Parameter.isTemporal := by
  rcases leaf_ok hv with ⟨hstart, rfl, hparams⟩ | ⟨hstart, rfl, hparams⟩ <;>
    rcases leaf_ok hw with ⟨hstart', rfl, hparams'⟩ | ⟨hstart', rfl, hparams'⟩
  · exact ⟨rfl, hparams.trans hparams'.symm⟩
  · rw [hstart, hstart'] at h
    cases h
  · rw [hstart, hstart'] at h
    cases h
  · exact ⟨rfl, hparams.trans hparams'.symm⟩

end FilterArgument

namespace Compose

variable {arguments : ArgumentList} {r s : RequestArguments}

theorem fragments_some {a : FilterArgument} {value : Literal}
    (h : r.supplied? a.graphPath = some value) {first : Nat} {rest : List FilterArgument}
    {exprs : List Expr} {params : List Parameter} :
    fragments r first (a :: rest) = .ok (exprs, params) ↔
      ∃ leaf leafParams others more, a.leaf value first = .ok (leaf, leafParams) ∧
        fragments r (first + leafParams.length) rest = .ok (others, more) ∧
        leaf.along a.isRequired [] a.path.segments :: others = exprs ∧
        leafParams ++ more = params := by
  rw [fragments, h]
  simp only [FilterArgument.fragment, bind_eq_ok, pure, Except.pure, Except.ok.injEq, Prod.exists,
    Prod.mk.injEq]
  constructor
  · rintro ⟨_, _, ⟨leaf, leafParams, hleaf, rfl, rfl⟩, others, more, hrest, rfl, rfl⟩
    exact ⟨leaf, leafParams, others, more, hleaf, hrest, rfl, rfl⟩
  · rintro ⟨leaf, leafParams, others, more, hleaf, hrest, rfl, rfl⟩
    exact ⟨_, _, ⟨leaf, leafParams, hleaf, rfl, rfl⟩, others, more, hrest, rfl, rfl⟩

theorem fragments_congr {filters : List FilterArgument}
    (hsupplied : ∀ a ∈ filters,
      (r.supplied? a.graphPath).isSome = (s.supplied? a.graphPath).isSome)
    (htimes : ∀ a ∈ filters, a.type.isDate = true →
      (r.supplied? a.graphPath).any Literal.isTime = (s.supplied? a.graphPath).any Literal.isTime)
    {first : Nat} {exprs exprs' : List Expr} {params params' : List Parameter}
    (hr : fragments r first filters = .ok (exprs, params))
    (hs : fragments s first filters = .ok (exprs', params')) :
    exprs = exprs' ∧ params.map Parameter.isTemporal = params'.map Parameter.isTemporal := by
  induction filters generalizing first exprs exprs' params params' with
  | nil =>
    rw [fragments] at hr hs
    cases hr
    cases hs
    exact ⟨rfl, rfl⟩
  | cons a rest ih =>
    have ihrest := @ih (fun b hb => hsupplied b (List.mem_cons_of_mem a hb))
      (fun b hb => htimes b (List.mem_cons_of_mem a hb))
    have hboth := hsupplied a List.mem_cons_self
    have htime := htimes a List.mem_cons_self
    cases hv : r.supplied? a.graphPath with
    | none =>
      have hw : s.supplied? a.graphPath = none := by
        rw [hv, Option.isSome_none] at hboth
        exact Option.not_isSome_iff_eq_none.mp (by rw [← hboth]; decide)
      rw [fragments, hv] at hr
      rw [fragments, hw] at hs
      exact ihrest hr hs
    | some v =>
      rw [hv] at hboth htime
      obtain ⟨w, hw⟩ := Option.isSome_iff_exists.mp hboth.symm
      rw [hw, Option.any_some, Option.any_some] at htime
      have hday : (a.dayStart? v).isSome = (a.dayStart? w).isSome := by
        rw [FilterArgument.isSome_dayStart?, FilterArgument.isSome_dayStart?]
        cases hdate : a.type.isDate with
        | false => rfl
        | true => rw [htime hdate]
      rw [fragments_some hv] at hr
      rw [fragments_some hw] at hs
      obtain ⟨leaf, leafParams, others, more, hleaf, hrest, rfl, rfl⟩ := hr
      obtain ⟨leaf', leafParams', others', more', hleaf', hrest', rfl, rfl⟩ := hs
      obtain ⟨rfl, htemporal⟩ := FilterArgument.leaf_congr hleaf hleaf' hday
      -- The tests take as many parameters, so the later ones get the same numbers.
      have hlength : leafParams.length = leafParams'.length := by
        simpa only [List.length_map] using congrArg List.length htemporal
      rw [← hlength] at hrest'
      obtain ⟨rfl, hmore⟩ := ihrest hrest hrest'
      exact ⟨rfl, by rw [List.map_append, List.map_append, htemporal, hmore]⟩

theorem filter?_congr (h : AskAlike arguments r s) {f g : Option Filter}
    (hr : filter? arguments r = .ok f) (hs : filter? arguments s = .ok g) :
    Option.Rel Filter.Alike f g := by
  rw [filter?, bind_eq_ok] at hr hs
  obtain ⟨⟨exprs, params⟩, hfragments, hr⟩ := hr
  obtain ⟨⟨exprs', params'⟩, hfragments', hs⟩ := hs
  obtain ⟨rfl, htemporal⟩ := fragments_congr h.supplied h.times hfragments hfragments'
  cases exprs with
  | nil =>
    cases hr
    cases hs
    exact .none
  | cons expr others =>
    cases hr
    cases hs
    exact .some ⟨rfl, htemporal⟩

theorem orderBy_eq_of_get?
    (h : ∀ d, arguments.firstOf? .orderBy = some d → r.get? d.name = s.get? d.name) :
    orderBy arguments r = orderBy arguments s := by
  unfold orderBy
  cases hd : arguments.firstOf? .orderBy with
  | none => rfl
  | some d => simp only [h d hd]

theorem orderBy_congr (h : AskAlike arguments r s) : orderBy arguments r = orderBy arguments s :=
  orderBy_eq_of_get? (h.others .orderBy (by decide))

theorem paging?_congr (h : AskAlike arguments r s) : paging? arguments r = paging? arguments s := by
  unfold paging? RequestArguments.supplied?
  cases hpage : arguments.firstOf? .page with
  | none => rfl
  | some page =>
    cases hsize : arguments.firstOf? .pageSize with
    | none => rfl
    | some size =>
      simp only [h.others .page (by decide) page hpage,
        h.others .pageSize (by decide) size hsize]

theorem plan_ok {p : QueryPlan} (h : plan arguments r = .ok p) :
    filter? arguments r = .ok p.filter ∧ orderBy arguments r = .ok p.orderBy ∧
      paging? arguments r = .ok p.paging := by
  simp only [plan, bind_eq_ok, pure, Except.pure, Except.ok.injEq] at h
  obtain ⟨filter, hfilter, orderBy, horder, paging, hpaging, rfl⟩ := h
  exact ⟨hfilter, horder, hpaging⟩

theorem steps_alike {p p' : QueryPlan} (hfilter : Option.Rel Filter.Alike p.filter p'.filter)
    (horder : p.orderBy = p'.orderBy) (hpaging : p.paging = p'.paging) :
    List.Forall₂ Step.Alike p.steps p'.steps := by
  have hsame : ∀ steps : List Step, List.Forall₂ Step.Alike steps steps :=
    fun steps => List.forall₂_same.mpr fun s _ => .same s
  rw [QueryPlan.steps, QueryPlan.steps, horder, hpaging]
  refine List.rel_append (List.rel_append ?_ (hsame _)) (hsame _)
  generalize p.filter = f, p'.filter = g at hfilter
  cases hfilter with
  | none => exact .nil
  | some h => exact .cons (.filter h) .nil

/-- Two requests that ask alike lead to the same statement, whatever values they filter by. -/
theorem statement_independent_of_values {p p' : QueryPlan} (hr : plan arguments r = .ok p)
    (hs : plan arguments s = .ok p') (h : AskAlike arguments r s) (q : DocumentQuery) :
    p.filter.map (·.expr) = p'.filter.map (·.expr) ∧ (p.apply q).sql = (p'.apply q).sql ∧
      (p.apply q).params.length = (p'.apply q).params.length := by
  obtain ⟨hfilter, horder, hpaging⟩ := plan_ok hr
  obtain ⟨hfilter', horder', hpaging'⟩ := plan_ok hs
  have halike := filter?_congr h hfilter hfilter'
  rw [orderBy_congr h, horder', Except.ok.injEq] at horder
  rw [paging?_congr h, hpaging', Except.ok.injEq] at hpaging
  have htext : DocumentQuery.SameText (p.apply q) (p'.apply q) :=
    DocumentQuery.sameText_run ⟨rfl, rfl, rfl⟩ (steps_alike halike horder.symm hpaging.symm)
  refine ⟨?_, congrArg Statement.sql htext.statement, htext.params⟩
  generalize p.filter = f, p'.filter = g at halike
  cases halike with
  | none => rfl
  | some halike => exact congrArg some halike.expr

/-! ### Stays on a page -/

def pagedStays : ArgumentList := stayArguments.supportOrderBy.supportPaging

def annsStays : RequestArguments :=
  ⟨[("day", .string "2019-02-03"), ("guest", .string "Ann"), ("orderby", .string "day desc"),
    ("page", .number (.ofInt64 1)), ("pagesize", .string "10")]⟩

/-- The name would end the statement and begin another, were it part of the text. -/
def injectedStays : RequestArguments :=
  ⟨[("day", .string "2020-02-29T10:00:00"), ("guest", .string "'; DROP TABLE \"stays\"; --"),
    ("orderby", .string "day desc"), ("page", .number (.ofInt64 1)), ("pagesize", .string "10")]⟩

theorem stays_askAlike : AskAlike pagedStays annsStays injectedStays where
  supplied := by decide +kernel
  times := by decide +kernel
  others := by
    intro kind hkind d hd
    cases kind with
    | filter => exact absurd rfl hkind
    | orderBy | page | pageSize =>
      cases hd
      rfl

theorem plan_of_parts {f : Option Filter} {keys : List SortKey} {page : Option Paging}
    (hfilter : filter? arguments r = .ok f) (horder : orderBy arguments r = .ok keys)
    (hpaging : paging? arguments r = .ok page) : plan arguments r = .ok ⟨f, keys, page⟩ := by
  rw [plan, hfilter, horder, hpaging]
  rfl

def staysPlan (guest : String) (start stop : DateTime) : QueryPlan where
  filter := some ⟨annOnThirdFilter.expr, [.string guest, .dateTime start, .dateTime stop]⟩
  orderBy := [⟨⟨["Checkin", "Date"]⟩, .descending⟩]
  paging := some ⟨10, 10⟩

theorem annsStays_plan : plan pagedStays annsStays = .ok (staysPlan "Ann"
    ⟨⟨2019, 2, 3, by decide, by decide, by decide⟩, .midnight⟩
    ⟨⟨2019, 2, 4, by decide, by decide, by decide⟩, .midnight⟩) :=
  plan_of_parts (by cbv) (by decide +kernel) (by rfl)

theorem injectedStays_plan : plan pagedStays injectedStays = .ok
    (staysPlan "'; DROP TABLE \"stays\"; --"
      ⟨⟨2020, 2, 29, by decide, by decide, by decide⟩,
        ⟨10, 0, 0, 0, by decide, by decide, by decide, by decide⟩⟩
      ⟨⟨2020, 3, 1, by decide, by decide, by decide⟩,
        ⟨10, 0, 0, 0, by decide, by decide, by decide, by decide⟩⟩) :=
  plan_of_parts (by cbv) (by decide +kernel) (by rfl)

theorem injected_stays_same_statement :
    ∃ p p', plan pagedStays annsStays = .ok p ∧ plan pagedStays injectedStays = .ok p' ∧
      AskAlike pagedStays annsStays injectedStays ∧
      (p.apply (DocumentQuery.ofTable "stays" "doc")).sql =
        (p'.apply (DocumentQuery.ofTable "stays" "doc")).sql := by
  have hsame := statement_independent_of_values annsStays_plan injectedStays_plan stays_askAlike
    (.ofTable "stays" "doc")
  exact ⟨_, _, annsStays_plan, injectedStays_plan, stays_askAlike, hsame.2.1⟩

end Compose

end FieldQuery
