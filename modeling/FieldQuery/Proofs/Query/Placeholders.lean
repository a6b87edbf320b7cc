import Mathlib
import FieldQuery.Proofs.Query.Reading
import FieldQuery.Proofs.Query.Run

/-!
# Placeholders of a statement

Every comparison that a run of calls writes refers to a parameter of its own filter, wherever the
statement it stands in ends up.
-/

namespace FieldQuery

/-! ## Texts within texts -/

def StandsIn (part whole : String) : Prop := ∃ before after, before ++ part ++ after = whole

namespace StandsIn

variable {part whole : String}

theorem self (s : String) : StandsIn s s := ⟨"", "", by simp⟩

theorem append_right (h : StandsIn part whole) (text : String) : StandsIn part (whole ++ text) := by
  obtain ⟨before, after, rfl⟩ := h
  exact ⟨before, after ++ text, String.append_assoc.symm⟩

theorem append_left (h : StandsIn part whole) (text : String) : StandsIn part (text ++ whole) := by
  obtain ⟨before, after, rfl⟩ := h
  exact ⟨text ++ before, after, by simp only [String.append_assoc]⟩

theorem trans {text : String} (h : StandsIn part whole) (h' : StandsIn whole text) :
    StandsIn part text := by
  obtain ⟨before, after, rfl⟩ := h'
  exact (h.append_left before).append_right after

theorem intercalate (sep : String) {parts : List String} (h : whole ∈ parts)
    (hpart : StandsIn part whole) : StandsIn part (sep.intercalate parts) := by
  induction parts with
  | nil => cases h
  | cons first rest ih =>
    cases rest with
    | nil =>
      obtain rfl := List.mem_singleton.mp h
      simpa using hpart
    | cons second more =>
      rw [String.intercalate_cons_cons]
      rcases List.mem_cons.mp h with rfl | h
      · rw [String.append_assoc]
        exact hpart.append_right _
      · exact (ih h).append_left _

end StandsIn

/-! ## Comparisons -/

namespace Expr

mutual

def comparisons : Expr → List Comparison
  | .compare c => [c]
  | .any _ _ predicate => comparisons predicate
  | .and parts => comparisonsOf parts

def comparisonsOf : List Expr → List Comparison
  | [] => []
  | part :: rest => comparisons part ++ comparisonsOf rest

end

end Expr

namespace Condition

mutual

def comparisons : Condition → List Condition
  | .compare document member op placeholder temporal =>
    [.compare document member op placeholder temporal]
  | .exist _ _ _ element => comparisons element
  | .all parts => comparisonsOf parts

def comparisonsOf : List Condition → List Condition
  | [] => []
  | part :: rest => comparisons part ++ comparisonsOf rest

end

theorem sql_exist (column : String) (number : Nat) (document : DocumentRef)
    (collection : MemberPath) (element : Condition) :
    (Condition.exist number document collection element).sql column =
      "EXISTS (SELECT 1 FROM json_each(" ++ document.sql column ++ ", " ++ jsonPath collection ++
        ") AS j" ++ toString number ++ " WHERE " ++ element.sql column ++ ")" := rfl

theorem sql_all (column : String) (parts : List Condition) :
    (Condition.all parts).sql column = " AND ".intercalate (partSql column parts) := rfl

mutual

theorem sql_comparison (column : String) (condition : Condition) {c : Condition}
    (h : c ∈ condition.comparisons) : StandsIn (c.sql column) (condition.sql column) := by
  match condition with
  | .compare .. =>
    rw [comparisons, List.mem_singleton] at h
    rw [h]
    exact .self _
  | .exist number document collection element =>
    rw [comparisons] at h
    rw [sql_exist]
    exact ((sql_comparison column element h).append_left _).append_right _
  | .all parts =>
    rw [comparisons] at h
    rw [sql_all]
    obtain ⟨text, htext, hstands⟩ := partSql_comparison column parts h
    exact hstands.intercalate _ htext

theorem partSql_comparison (column : String) (parts : List Condition) {c : Condition}
    (h : c ∈ comparisonsOf parts) :
    ∃ text ∈ partSql column parts, StandsIn (c.sql column) text := by
  match parts with
  | [] => cases h
  | part :: rest =>
    rw [comparisonsOf, List.mem_append] at h
    rw [partSql]
    rcases h with h | h
    · refine ⟨"(" ++ part.sql column ++ ")", by simp, ?_⟩
      exact StandsIn.append_right (StandsIn.append_left (sql_comparison column part h) _) _
    · obtain ⟨text, htext, hstands⟩ := partSql_comparison column rest h
      exact ⟨text, by simp [htext], hstands⟩

end

/-- A comparison as it is written for a filter whose parameters follow `base` earlier ones. -/
def Numbered (params : List Parameter) (base : Nat) (c : Comparison) (written : Condition) : Prop :=
  ∃ document, written =
    .compare document c.member c.op (base + c.param + 1) (params[c.param]?.any Parameter.isTemporal)

variable {params : List Parameter} {base : Nat}

mutual

theorem numbered_ofExpr (e : Expr) (document : DocumentRef) (last : Nat) :
    List.Forall₂ (Numbered params base) e.comparisons
      (ofExpr params base e document last).1.comparisons := by
  match e with
  | .compare c =>
    rw [Expr.comparisons, ofExpr, comparisons]
    exact .cons ⟨document, rfl⟩ .nil
  | .any collection np predicate =>
    rw [Expr.comparisons, ofExpr, comparisons]
    exact numbered_ofExpr predicate _ _
  | .and parts =>
    rw [Expr.comparisons, ofExpr, comparisons]
    exact numbered_ofExprs parts document last

theorem numbered_ofExprs (parts : List Expr) (document : DocumentRef) (last : Nat) :
    List.Forall₂ (Numbered params base) (Expr.comparisonsOf parts)
      (comparisonsOf (ofExprs params base parts document last).1) := by
  match parts with
  | [] => exact .nil
  | part :: rest =>
    rw [Expr.comparisonsOf, ofExprs, comparisonsOf]
    exact List.rel_append (numbered_ofExpr part document last) (numbered_ofExprs rest document _)

end

end Condition

/-! ## Levels of a statement -/

/-- The clauses of the nested statements, the innermost first. -/
def Source.levels : Source → List Clauses
  | .table _ => []
  | .nested source clauses _ => source.levels ++ [clauses]

namespace Statement

def levels (s : Statement) : List Clauses := s.source.levels ++ [s.clauses]

def conditions (s : Statement) : List Condition := s.levels.flatMap (·.conditions)

end Statement

theorem selectSql_condition {column source : String} {clauses : Clauses} {c : Condition}
    (hnone : clauses.isNone = false) (hc : c ∈ clauses.conditions) :
    StandsIn (c.sql column) (selectSql column source clauses) := by
  have hwhere : StandsIn (c.sql column) (clauses.whereSql column) := by
    have hsome : clauses.conditions.isEmpty = false := by
      rw [List.isEmpty_eq_false_iff]
      exact List.ne_nil_of_mem hc
    simp only [Clauses.whereSql, hnone, hsome, Bool.false_eq_true, if_false]
    exact ((StandsIn.self _).intercalate _ (List.mem_map_of_mem hc)).append_left _
  exact ((hwhere.append_right _).append_right _).append_left _

theorem Source.sql_condition {column : String} {source : Source} {level : Clauses} {c : Condition}
    (hlevel : level ∈ source.levels) (hnone : level.isNone = false) (hc : c ∈ level.conditions) :
    StandsIn (c.sql column) (source.sql column) := by
  induction source with
  | table name => cases hlevel
  | nested source clauses number ih =>
    rw [levels, List.mem_append, List.mem_singleton] at hlevel
    have hselect : StandsIn (c.sql column) (selectSql column (source.sql column) clauses) := by
      rcases hlevel with hlevel | rfl
      · exact ((ih hlevel).append_left _).append_right _
      · exact selectSql_condition hnone hc
    rw [sql]
    exact ((hselect.append_left _).append_right _).append_right _

/-- Every condition stands in the text as it was written, but those of a statement that asks for
nothing. -/
theorem Statement.sql_condition {s : Statement} {level : Clauses} {c : Condition}
    (hlevel : level ∈ s.levels) (hnone : level.isNone = false) (hc : c ∈ level.conditions) :
    StandsIn (c.sql (quoteIdentifier s.column)) s.sql := by
  rw [levels, List.mem_append, List.mem_singleton] at hlevel
  rcases hlevel with hlevel | rfl
  · exact ((Source.sql_condition hlevel hnone hc).append_left _).append_right _
  · exact selectSql_condition hnone hc

/-! ## Runs of calls -/

namespace QueryCall

def filter? : QueryCall → Option Filter
  | .step (.filter f) => some f
  | _ => .none

def filters (calls : List QueryCall) : List Filter := calls.filterMap filter?

theorem filters_cons (call : QueryCall) (rest : List QueryCall) :
    filters (call :: rest) = call.filter?.toList ++ filters rest := by
  rw [filters, List.filterMap_cons]
  cases call.filter? <;> rfl

end QueryCall

/-- One condition for each filter, each with the numbers behind those of the filters before. -/
inductive Written : (base : Nat) → List Filter → List Condition → Prop
  | nil (base : Nat) : Written base [] []
  | cons {base : Nat} {f : Filter} {c : Condition} {filters : List Filter}
      {conditions : List Condition}
      (first : List.Forall₂ (Condition.Numbered f.params base) f.expr.comparisons c.comparisons)
      (rest : Written (base + f.params.length) filters conditions) :
      Written base (f :: filters) (c :: conditions)

namespace Written

variable {base : Nat} {filters others : List Filter} {conditions more : List Condition}

theorem append (h : Written base filters conditions)
    (h' : Written (base + (filters.flatMap (·.params)).length) others more) :
    Written base (filters ++ others) (conditions ++ more) := by
  induction h with
  | nil base => simpa using h'
  | cons first rest ih =>
    rw [List.flatMap_cons, List.length_append, ← Nat.add_assoc] at h'
    exact .cons first (ih h')

theorem length_eq (h : Written base filters conditions) : conditions.length = filters.length := by
  induction h with
  | nil base => rfl
  | cons first rest ih => rw [List.length_cons, List.length_cons, ih]

theorem numbered_at (h : Written base filters conditions) {k : Nat} {f : Filter}
    (hf : filters[k]? = some f) :
    ∃ c, conditions[k]? = some c ∧
      List.Forall₂
        (Condition.Numbered f.params (base + ((filters.take k).flatMap (·.params)).length))
        f.expr.comparisons c.comparisons := by
  induction h generalizing k with
  | nil base => simp at hf
  | @cons base g c filters conditions first rest ih =>
    cases k with
    | zero =>
      obtain rfl : g = f := by simpa using hf
      exact ⟨c, rfl, first⟩
    | succ k =>
      obtain ⟨d, hd, hnumbered⟩ := ih (by simpa using hf)
      refine ⟨d, by simpa using hd, ?_⟩
      rw [List.take_succ_cons, List.flatMap_cons, List.length_append, ← Nat.add_assoc]
      exact hnumbered

end Written

namespace DocumentQuery

variable {q r s : DocumentQuery}

/-- One query has come of another by these filters and any other calls. -/
structure Follows (q : DocumentQuery) (filters : List Filter) (r : DocumentQuery) : Prop where
  column : r.statement.column = q.statement.column
  params : r.params = q.params ++ filters.flatMap (·.params)
  conditions : ∃ more, r.statement.conditions = q.statement.conditions ++ more ∧
    Written q.params.length filters more

theorem Follows.of_eq (hcolumn : r.statement.column = q.statement.column)
    (hparams : r.params = q.params)
    (hconditions : r.statement.conditions = q.statement.conditions) :
    Follows q [] r where
  column := hcolumn
  params := by simpa using hparams
  conditions := ⟨[], by simpa using hconditions, .nil _⟩

theorem Follows.trans {filters others : List Filter} (h : Follows q filters r)
    (h' : Follows r others s) : Follows q (filters ++ others) s := by
  obtain ⟨more, hmore, hwritten⟩ := h.conditions
  obtain ⟨later, hlater, hwritten'⟩ := h'.conditions
  rw [h.params, List.length_append] at hwritten'
  refine ⟨h'.column.trans h.column, ?_, more ++ later, ?_, hwritten.append hwritten'⟩
  · rw [h'.params, h.params, List.flatMap_append, List.append_assoc]
  · rw [hlater, hmore, List.append_assoc]

theorem follows_withClauses {clauses : Clauses} (h : clauses.conditions = q.clauses.conditions) :
    Follows q [] (q.withClauses clauses) := by
  refine .of_eq rfl rfl ?_
  simp only [Statement.conditions, Statement.levels, List.flatMap_append, List.flatMap_singleton]
  exact congrArg _ h

theorem follows_unpaged (q : DocumentQuery) : Follows q [] q.unpaged := by
  unfold unpaged
  split
  · refine .of_eq rfl rfl ?_
    simp [nested, Statement.conditions, Statement.levels, Source.levels, Clauses.outer, clauses]
  · exact .of_eq rfl rfl rfl

theorem conditions_filter (q : DocumentQuery) (f : Filter) :
    (q.filter f).statement.conditions = q.unpaged.statement.conditions ++
      [(Condition.ofExpr f.params q.unpaged.params.length f.expr .column q.unpaged.lastNumber).1] := by
  unfold filter
  simp [withClauses, clauses, Statement.conditions, Statement.levels]

theorem follows_filter (q : DocumentQuery) (f : Filter) : Follows q [f] (q.filter f) := by
  have hfilter : Follows q.unpaged [f] (q.filter f) :=
    ⟨rfl, by simp [filter], _, conditions_filter q f,
      .cons (Condition.numbered_ofExpr f.expr _ _) (.nil _)⟩
  exact (follows_unpaged q).trans hfilter

theorem follows_call (q : DocumentQuery) (call : QueryCall) :
    Follows q call.filter?.toList (call.apply q) := by
  cases call with
  | none => exact follows_withClauses rfl
  | step step =>
    cases step with
    | filter f => exact follows_filter q f
    | orderBy keys =>
      show Follows q [] (q.orderBy keys)
      unfold orderBy
      split
      · exact .of_eq rfl rfl rfl
      · exact (follows_unpaged q).trans (follows_withClauses rfl)
    | skip count | take count => exact follows_withClauses rfl

theorem follows_run (calls : List QueryCall) (q : DocumentQuery) :
    Follows q (QueryCall.filters calls) (QueryCall.run calls q) := by
  induction calls generalizing q with
  | nil => exact .of_eq rfl rfl rfl
  | cons call rest ih =>
    rw [QueryCall.filters_cons]
    exact (follows_call q call).trans (ih (call.apply q))

/-! ### Statements that ask for nothing -/

/-- A statement within asks for nothing only if the whole one does. -/
def Shown (q : DocumentQuery) : Prop :=
  q.isNone = false → ∀ level ∈ q.statement.source.levels, level.isNone = false

theorem shown_unpaged (h : q.Shown) : q.unpaged.Shown := by
  unfold unpaged
  split
  · intro hnone level hlevel
    simp only [nested, Source.levels, List.mem_append, List.mem_singleton] at hlevel
    rcases hlevel with hlevel | rfl
    · exact h hnone level hlevel
    · exact hnone
  · exact h

theorem shown_call (h : q.Shown) (call : QueryCall) : (call.apply q).Shown := by
  cases call with
  | none =>
    intro hnone
    cases hnone
  | step step =>
    cases step with
    | filter f => exact shown_unpaged h
    | orderBy keys =>
      show (q.orderBy keys).Shown
      unfold orderBy
      split
      · exact h
      · exact shown_unpaged h
    | skip count | take count => exact h

theorem shown_run (h : q.Shown) (calls : List QueryCall) : (QueryCall.run calls q).Shown := by
  induction calls generalizing q with
  | nil => exact h
  | cons call rest ih => exact ih (shown_call h call)

theorem levels_of_shown (h : q.Shown) (hnone : q.isNone = false) :
    ∀ level ∈ q.statement.levels, level.isNone = false := by
  intro level hlevel
  rw [Statement.levels, List.mem_append, List.mem_singleton] at hlevel
  rcases hlevel with hlevel | rfl
  · exact h hnone level hlevel
  · exact hnone

/-! ### All calls -/

/-- The parameters of a query are those of its filters in call order. The `k`-th filter is written
as the `k`-th condition, which no later call changes, and its comparisons count their parameters
behind those of the filters before. The text holds every condition, unless no row is asked for. -/
theorem comparisons_read_own_parameters (calls : List QueryCall) (table column : String) :
    let q := QueryCall.run calls (ofTable table column)
    let filters := QueryCall.filters calls
    q.params = filters.flatMap (·.params) ∧
      q.statement.conditions.length = filters.length ∧
      (∀ k f, filters[k]? = some f →
        let base := ((filters.take k).flatMap (·.params)).length
        ∃ c, q.statement.conditions[k]? = some c ∧
          List.Forall₂ (Condition.Numbered f.params base) f.expr.comparisons c.comparisons ∧
          ∀ i param, f.params[i]? = some param →
            placeholderValue? q.params (base + i + 1) = some param) ∧
      (∀ later, q.statement.conditions <+: (QueryCall.run later q).statement.conditions) ∧
      (∀ level ∈ q.statement.levels, level.isNone = false → ∀ c ∈ level.conditions,
        StandsIn (c.sql (quoteIdentifier column)) q.sql ∧
          ∀ written ∈ c.comparisons, StandsIn (written.sql (quoteIdentifier column))
            (c.sql (quoteIdentifier column))) ∧
      (calls.any QueryCall.isNone = false →
        ∀ level ∈ q.statement.levels, level.isNone = false) := by
  intro q filters
  have hrun : Follows (ofTable table column) filters q := follows_run calls _
  have hcolumn : q.statement.column = column := hrun.column
  have hparams : q.params = filters.flatMap (·.params) := hrun.params
  obtain ⟨conditions, hconditions, hwritten⟩ := hrun.conditions
  replace hconditions : q.statement.conditions = conditions := hconditions
  refine ⟨hparams, ?_, ?_, ?_, ?_, ?_⟩
  · rw [hconditions, hwritten.length_eq]
  · intro k f hf base
    obtain ⟨c, hc, hnumbered⟩ := hwritten.numbered_at hf
    rw [show (ofTable table column).params.length = 0 from rfl, Nat.zero_add] at hnumbered
    refine ⟨c, by rw [hconditions, hc], hnumbered, ?_⟩
    intro i param hi
    -- The parameters are those of the filters before, of this filter and of the filters after.
    obtain ⟨hk, rfl⟩ := List.getElem?_eq_some_iff.mp hf
    obtain ⟨hlt, -⟩ := List.getElem?_eq_some_iff.mp hi
    rw [placeholderValue?, hparams, ← List.take_append_drop k filters,
      List.drop_eq_getElem_cons hk, List.flatMap_append, List.flatMap_cons,
      List.getElem?_append_right (Nat.le_add_right _ _), Nat.add_sub_cancel_left,
      List.getElem?_append_left hlt, hi]
  · intro later
    obtain ⟨more, hmore, -⟩ := (follows_run later q).conditions
    exact ⟨more, hmore.symm⟩
  · intro level hlevel hnone c hc
    rw [← hcolumn]
    exact ⟨Statement.sql_condition hlevel hnone hc, fun written => Condition.sql_comparison _ c⟩
  · intro hcalls
    have hfresh : (ofTable table column).Shown := by
      intro _ level hlevel
      cases hlevel
    have hnone : q.isNone = false := by
      rw [isNone_run, hcalls]
      rfl
    exact levels_of_shown (shown_run hfresh calls) hnone

/-! ### A filter behind a page -/

def pricedFilter : Filter where
  expr := .and [.compare ⟨⟨["Price"]⟩, .ge, 0, false⟩, .compare ⟨⟨["Price"]⟩, .lt, 1, false⟩]
  params := [.integer 10, .integer 20]

def roomFilter : Filter where
  expr := .any ⟨["Rooms"]⟩ false (.compare ⟨⟨["Number"]⟩, .eq, 0, false⟩)
  params := [.integer 7]

def pageCalls : List QueryCall :=
  [.step (.filter pricedFilter), .step (.take 5), .step (.filter roomFilter)]

theorem room_reads_third :
    let q := QueryCall.run pageCalls (ofTable "t" "doc")
    q.sql =
        "SELECT \"doc\" FROM (SELECT \"doc\" FROM \"t\" WHERE " ++
          "(json_extract(\"doc\", '$.\"Price\"') >= ?1) AND " ++
          "(json_extract(\"doc\", '$.\"Price\"') < ?2) LIMIT 5) AS s1 WHERE " ++
          "EXISTS (SELECT 1 FROM json_each(\"doc\", '$.\"Rooms\"') AS j2 WHERE " ++
          "json_extract(j2.value, '$.\"Number\"') IS ?3)" ∧
      ∃ c, q.statement.conditions[1]? = some c ∧
        List.Forall₂ (Condition.Numbered roomFilter.params 2) roomFilter.expr.comparisons
          c.comparisons ∧
        ∀ i param, roomFilter.params[i]? = some param →
          placeholderValue? q.params (2 + i + 1) = some param := by
  refine ⟨by decide +kernel, ?_⟩
  exact (comparisons_read_own_parameters pageCalls "t" "doc").2.2.1 1 roomFilter rfl

end DocumentQuery

end FieldQuery
