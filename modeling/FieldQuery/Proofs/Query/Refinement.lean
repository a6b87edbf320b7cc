import Mathlib
import FieldQuery.Proofs.Query.Reading
import FieldQuery.Proofs.Query.Run

/-!
# Statements refine calls

The statement built from a run of calls asks for the rows that the same calls leave of a collection
in memory.
-/

namespace FieldQuery

variable {α : Type}

def Step.keys : Step → List SortKey
  | .orderBy keys => keys
  | _ => []

def QueryCall.keys : QueryCall → List SortKey
  | .step s => s.keys
  | .none => []

/-! ## More clauses -/

theorem drop_min {n limit : Nat} {xs : List α} (h : xs.length ≤ limit) :
    xs.drop (min n limit) = xs.drop n := by
  rcases Nat.le_total n limit with hle | hle
  · rw [Nat.min_eq_left hle]
  · rw [Nat.min_eq_right hle, List.drop_of_length_le h, List.drop_of_length_le (by omega)]

theorem take_min {n limit : Nat} {xs : List α} (h : xs.length ≤ limit) :
    xs.take (min n limit) = xs.take n := by
  rw [← List.take_take, List.take_of_length_le h]

namespace Clauses

variable {params : List Parameter} {c : Clauses} {source : List (Row α)}

theorem rows_of_isNone (h : c.isNone = true) : c.rows params source = [] := by
  rw [rows, if_pos h]

theorem rows_of_not_paged (hnone : c.isNone = false) (hpaged : c.isPaged = false) :
    c.rows params source = sortRows c.orderBy (source.filter (c.keeps params)) := by
  rw [rows, hnone, if_neg (by simp), window_of_not_paged hpaged]

theorem rows_condition (hpaged : c.isPaged = false) (hexact : ExactRows c.orderBy source)
    (condition : Condition) :
    ({ c with conditions := c.conditions ++ [condition] } : Clauses).rows params source =
      (c.rows params source).filter fun row => condition.meets params (.ofRow row.1) := by
  generalize hmore : ({ c with conditions := c.conditions ++ [condition] } : Clauses) = more
  cases hnone : c.isNone with
  | true => rw [rows_of_isNone hnone, rows_of_isNone (by rw [← hmore, hnone]), List.filter_nil]
  | false =>
    have hkept : ExactRows c.orderBy (source.filter (c.keeps params)) :=
      hexact.subset List.filter_sublist.subset
    have hkeeps : ∀ row ∈ source, more.keeps params row =
        (condition.meets params (.ofRow row.1) && c.keeps params row) := by
      intro row _
      simp [← hmore, keeps, Bool.and_comm]
    rw [rows_of_not_paged hnone hpaged, filter_sortRows hkept, List.filter_filter,
      ← List.filter_congr hkeeps, ← hmore]
    exact rows_of_not_paged hnone hpaged

theorem rows_orderBy (hpaged : c.isPaged = false) (hunordered : c.orderBy = [])
    (keys : List SortKey) :
    ({ c with orderBy := keys } : Clauses).rows params source =
      sortRows keys (c.rows params source) := by
  generalize hmore : ({ c with orderBy := keys } : Clauses) = more
  cases hnone : c.isNone with
  | true =>
    rw [rows_of_isNone hnone, rows_of_isNone (by rw [← hmore, hnone])]
    rfl
  | false =>
    rw [rows_of_not_paged hnone hpaged, hunordered, sortRows_nil, ← hmore]
    exact rows_of_not_paged hnone hpaged

theorem length_sortRows_filter (params : List Parameter) (c : Clauses)
    (h : source.length ≤ maxRows) :
    (sortRows c.orderBy (source.filter (c.keeps params))).length ≤ maxRows := by
  rw [(sortRows_perm _ _).length_eq]
  exact (List.length_filter_le _ _).trans h

theorem rows_skip (h : source.length ≤ maxRows) (count : Nat) :
    ({ c with
        offset := min (c.offset + count) maxRows
        limit := c.limit.map (· - count) } : Clauses).rows params source =
      (c.rows params source).drop count := by
  unfold rows
  cases hnone : c.isNone with
  | true => simp
  | false =>
    have hsorted := length_sortRows_filter params c h
    simp only [Bool.false_eq_true, if_false, window]
    cases c.limit with
    | none => exact (drop_min hsorted).trans List.drop_drop.symm
    | some limit =>
      rw [List.drop_take, List.drop_drop, ← drop_min hsorted]
      rfl

theorem rows_take (h : source.length ≤ maxRows) (count : Nat) :
    ({ c with
        limit := some ((c.limit.map (min · (min count maxRows))).getD (min count maxRows))
      } : Clauses).rows params source = (c.rows params source).take count := by
  unfold rows
  cases hnone : c.isNone with
  | true => simp
  | false =>
    have hsorted := length_sortRows_filter params c h
    have hrest : ((sortRows c.orderBy (source.filter (c.keeps params))).drop c.offset).length ≤
        maxRows := by
      rw [List.length_drop]
      omega
    simp only [Bool.false_eq_true, if_false, window]
    cases c.limit with
    | none => exact take_min hrest
    | some limit =>
      rw [Option.map_some, Option.getD_some, ← Nat.min_assoc, List.take_take, Nat.min_comm count]
      exact take_min hrest

end Clauses

namespace DocumentQuery

variable {table kept : List (Row α)} {q : DocumentQuery}

/-! ## What a query asks for -/

/-- The query asks for these rows of a table, whatever parameters follow its own. -/
structure Asks (table : List (Row α)) (q : DocumentQuery) (kept : List (Row α)) : Prop where
  /-- The order it has is exact on the table. -/
  exact : ExactRows q.clauses.orderBy table
  rows : ∀ params, q.params <+: params → q.statement.rows params table = kept

theorem asks_ofTable (name column : String) : Asks table (ofTable name column) table where
  exact := by simp [ofTable, clauses, Clauses.none, ExactRows]
  rows params _ := by
    have hkeeps : Clauses.none.keeps params = fun _ : Row α => true := rfl
    calc Clauses.none.rows params table
      _ = sortRows [] (table.filter (Clauses.none.keeps params)) := rfl
      _ = table := by rw [hkeeps, List.filter_true, sortRows_nil]

theorem source_exact (h : ExactRows q.clauses.orderBy table) (params : List Parameter) :
    ExactRows q.clauses.orderBy (q.statement.source.rows params table) :=
  h.subset (q.statement.source.rows_subperm params table).subset

theorem source_length (h : table.length ≤ maxRows) (params : List Parameter) :
    (q.statement.source.rows params table).length ≤ maxRows :=
  (q.statement.source.rows_subperm params table).length_le.trans h

theorem isPaged_unpaged (q : DocumentQuery) : q.unpaged.clauses.isPaged = false := by
  unfold unpaged
  split
  case isTrue => rfl
  case isFalse h => exact Bool.eq_false_iff.mpr h

theorem orderBy_unpaged (q : DocumentQuery) :
    q.unpaged.clauses.orderBy = q.clauses.orderBy := by
  unfold unpaged
  split <;> rfl

/-- A nested statement asks for the same rows. -/
theorem Asks.unpaged (h : Asks table q kept) : Asks table q.unpaged kept := by
  unfold DocumentQuery.unpaged
  split
  · refine ⟨h.exact, ?_⟩
    intro params hparams
    rw [← h.rows params hparams]
    exact Clauses.rows_outer (source_exact h.exact params)
  · exact h

/-! ## One step -/

theorem Asks.filter (h : Asks table q kept) {f : Filter} {fewer : List (Row α)}
    (hrun : MemoryQuery.filterRows f kept = .ok fewer) : Asks table (q.filter f) fewer := by
  have hasks := h.unpaged
  have hpaged := isPaged_unpaged q
  unfold DocumentQuery.filter
  generalize q.unpaged = q at hasks hpaged ⊢
  refine ⟨hasks.exact, ?_⟩
  rintro _ ⟨later, rfl⟩
  -- The filter's own parameters stand right behind those of the query.
  have hown : ∀ i param, f.params[i]? = some param →
      (q.params ++ f.params ++ later)[q.params.length + i]? = some param := by
    intro i param hi
    obtain ⟨hlt, -⟩ := List.getElem?_eq_some_iff.mp hi
    rw [List.append_assoc, List.getElem?_append_right (Nat.le_add_right _ _),
      Nat.add_sub_cancel_left, List.getElem?_append_left hlt, hi]
  rw [MemoryQuery.filterRows_ok hrun fun row b hb =>
    Condition.meets_ofExpr hown f.expr .column q.lastNumber (.ofRow row.1) b hb]
  rw [← hasks.rows (q.params ++ f.params ++ later) (by simp [List.append_assoc])]
  exact Clauses.rows_condition hpaged (source_exact hasks.exact _) _

theorem Asks.orderBy (h : Asks table q kept) {keys : List SortKey} (hexact : ExactRows keys table)
    (hfirst : keys.isEmpty = false → q.clauses.orderBy = []) :
    Asks table (q.orderBy keys) (sortRows keys kept) := by
  unfold DocumentQuery.orderBy
  cases hkeys : keys.isEmpty with
  | true =>
    rw [List.isEmpty_iff] at hkeys
    rw [hkeys, sortRows_nil, if_pos rfl]
    exact h
  | false =>
    rw [if_neg (by simp)]
    have hasks := h.unpaged
    have hpaged := isPaged_unpaged q
    have hunordered := (orderBy_unpaged q).trans (hfirst hkeys)
    generalize q.unpaged = q at hasks hpaged hunordered ⊢
    refine ⟨hexact, ?_⟩
    intro params hparams
    rw [← hasks.rows params hparams]
    exact Clauses.rows_orderBy hpaged hunordered keys

theorem Asks.skip (h : Asks table q kept) (hlength : table.length ≤ maxRows) (count : Nat) :
    Asks table (q.skip count) (kept.drop count) := by
  refine ⟨h.exact, ?_⟩
  intro params hparams
  rw [← h.rows params hparams]
  exact Clauses.rows_skip (source_length hlength params) count

theorem Asks.take (h : Asks table q kept) (hlength : table.length ≤ maxRows) (count : Nat) :
    Asks table (q.take count) (kept.take count) := by
  refine ⟨h.exact, ?_⟩
  intro params hparams
  rw [← h.rows params hparams]
  exact Clauses.rows_take (source_length hlength params) count

theorem orderBy_applyStep {step : Step} (h : step.keys = []) (q : DocumentQuery) :
    (q.applyStep step).clauses.orderBy = q.clauses.orderBy := by
  cases step with
  | filter f => exact orderBy_unpaged q
  | orderBy keys =>
    obtain rfl : keys = [] := h
    rfl
  | skip | take => rfl

theorem Asks.applyStep (h : Asks table q kept) (hlength : table.length ≤ maxRows) {step : Step}
    {next : List (Row α)} (hrun : MemoryQuery.runStep step kept = .ok next)
    (hexact : ExactRows step.keys table)
    (hfirst : step.keys.isEmpty = false → q.clauses.orderBy = []) :
    Asks table (q.applyStep step) next := by
  cases step with
  | filter f => exact h.filter hrun
  | orderBy keys =>
    obtain rfl : sortRows keys kept = next := Except.ok.inj hrun
    exact h.orderBy hexact hfirst
  | skip count =>
    obtain rfl : kept.drop count = next := Except.ok.inj hrun
    exact h.skip hlength count
  | take count =>
    obtain rfl : kept.take count = next := Except.ok.inj hrun
    exact h.take hlength count

/-! ## All steps -/

/-- Steps of which at most one gives an order, and none if there is one already, leave the rows that
they leave in memory. -/
theorem Asks.run (h : Asks table q kept) (hlength : table.length ≤ maxRows) {steps : List Step}
    {left : List (Row α)} (hrun : MemoryQuery.runSteps steps kept = .ok left)
    (hexact : ∀ step ∈ steps, ExactRows step.keys table)
    (hone : steps.countP (fun step => !step.keys.isEmpty) ≤ 1)
    (hfirst : 0 < steps.countP (fun step => !step.keys.isEmpty) → q.clauses.orderBy = []) :
    Asks table (steps.foldl DocumentQuery.applyStep q) left := by
  induction steps generalizing q kept with
  | nil =>
    obtain rfl : kept = left := Except.ok.inj hrun
    exact h
  | cons step rest ih =>
    rw [MemoryQuery.runSteps_cons, bind_eq_ok] at hrun
    obtain ⟨next, hstep, hrest⟩ := hrun
    rw [List.forall_mem_cons] at hexact
    rw [List.countP_cons] at hone hfirst
    rw [List.foldl_cons]
    cases hkeys : step.keys.isEmpty with
    | true =>
      simp only [hkeys, Bool.not_true, Bool.false_eq_true, if_false, Nat.add_zero] at hone hfirst
      refine ih (h.applyStep hlength hstep hexact.1 (by simp [hkeys])) hrest hexact.2 hone ?_
      intro hlater
      rw [orderBy_applyStep (List.isEmpty_iff.mp hkeys)]
      exact hfirst hlater
    | false =>
      -- This was the one order, so the rest asks for none.
      simp only [hkeys, Bool.not_false, if_true] at hone hfirst
      have hnext := h.applyStep hlength hstep hexact.1 fun _ => hfirst (Nat.succ_pos _)
      exact ih hnext hrest hexact.2 (by omega) (by omega)

/-! ## Counts -/

end DocumentQuery

/-- All counts can be asked of a database. -/
def Clauses.Bounded (c : Clauses) : Prop :=
  (∀ limit, c.limit = some limit → limit ≤ maxRows) ∧ c.offset ≤ maxRows

def Source.Bounded : Source → Prop
  | .table _ => True
  | .nested source clauses _ => source.Bounded ∧ clauses.Bounded

def Statement.Bounded (s : Statement) : Prop := s.source.Bounded ∧ s.clauses.Bounded

namespace DocumentQuery

variable {q : DocumentQuery}

theorem bounded_unpaged (h : q.statement.Bounded) : q.unpaged.statement.Bounded := by
  unfold unpaged
  split
  · exact ⟨h, by simp [nested, Clauses.outer], Nat.zero_le _⟩
  · exact h

theorem bounded_applyStep (h : q.statement.Bounded) (step : Step) :
    (q.applyStep step).statement.Bounded := by
  cases step with
  | filter f => exact bounded_unpaged h
  | orderBy keys =>
    rw [applyStep, orderBy]
    split
    · exact h
    · exact bounded_unpaged h
  | skip count =>
    refine ⟨h.1, ?_, Nat.min_le_right _ _⟩
    simp only [applyStep, skip, withClauses, Option.map_eq_some_iff]
    rintro _ ⟨limit, hlimit, rfl⟩
    exact (Nat.sub_le _ _).trans (h.2.1 limit hlimit)
  | take count =>
    refine ⟨h.1, ?_, h.2.2⟩
    rintro _ ⟨⟩
    cases q.clauses.limit with
    | none => exact Nat.min_le_right _ _
    | some limit => exact (Nat.min_le_right _ _).trans (Nat.min_le_right _ _)

theorem bounded_run (h : q.statement.Bounded) (calls : List QueryCall) :
    (QueryCall.run calls q).statement.Bounded := by
  induction calls generalizing q with
  | nil => exact h
  | cons call rest ih =>
    cases call with
    | step s => exact ih (bounded_applyStep h s)
    | none => exact ih (q := Queryable.none q) h

theorem rows_of_isNone (h : q.isNone = true) (table : List (Row α)) : q.rows table = [] :=
  Clauses.rows_of_isNone h

/-! ## All calls -/

theorem countP_steps (calls : List QueryCall) :
    (calls.filterMap QueryCall.step?).countP (fun step => !step.keys.isEmpty) =
      calls.countP fun call => !call.keys.isEmpty := by
  rw [List.countP_filterMap]
  congr 1
  funext call
  cases call <;> rfl

theorem keys_mem_steps {calls : List QueryCall} {step : Step}
    (h : step ∈ calls.filterMap QueryCall.step?) : ∃ call ∈ calls, call.keys = step.keys := by
  obtain ⟨call, hcall, hstep⟩ := List.mem_filterMap.mp h
  cases call with
  | step s =>
    obtain rfl : s = step := Option.some.inj hstep
    exact ⟨_, hcall, rfl⟩
  | none => cases hstep

/-- Calls that order at most once build a statement that asks for the rows which the same calls
leave in memory, in the same order. It asks for no count beyond what a database can count. -/
theorem statement_asks_as_memory (calls : List QueryCall) (name column : String) :
    (QueryCall.run calls (ofTable name column)).statement.Bounded ∧
      ∀ {α : Type} (items : List α) (document : α → Json) (kept : List α),
        items.length ≤ maxRows →
        calls.countP (fun call => !call.keys.isEmpty) ≤ 1 →
        (∀ call ∈ calls, ∀ key ∈ call.keys, ∀ item ∈ items, key.ExactAt (document item)) →
        (QueryCall.run calls
          (MemoryQuery.ofList items fun item => .ok (document item))).toList = .ok kept →
        ((QueryCall.run calls (ofTable name column)).rows
          (items.map fun item => (document item, item))).map (·.2) = kept := by
  have hfresh : (ofTable name column).statement.Bounded :=
    ⟨trivial, by simp [ofTable, Clauses.none], Nat.zero_le _⟩
  refine ⟨bounded_run hfresh calls, ?_⟩
  intro α items document kept hlength hone hexact hkept
  rw [MemoryQuery.run_eq, MemoryQuery.toList] at hkept
  cases hnone : calls.any QueryCall.isNone with
  | true =>
    simp only [hnone, Bool.or_true, if_true, Except.ok.injEq] at hkept
    rw [rows_of_isNone (by rw [isNone_run, hnone, Bool.or_true]), ← hkept, List.map_nil]
  | false =>
    simp only [MemoryQuery.ofList, hnone, Bool.or_false, Bool.false_eq_true, if_false,
      MemoryQuery.projectAll_ok, List.nil_append, bind_eq_ok, pure, Except.pure,
      Except.ok.injEq, exists_eq_left'] at hkept
    obtain ⟨left, hleft, rfl⟩ := hkept
    rw [QueryCall.run_steps hnone]
    have hnew : Asks (items.map fun item => (document item, item)) (ofTable name column)
        (items.map fun item => (document item, item)) := asks_ofTable name column
    have hasks := hnew.run (by simpa using hlength) hleft ?_ (by rwa [countP_steps]) fun _ => rfl
    · rw [← hasks.rows _ List.prefix_rfl]
      rfl
    · intro step hstep row hrow key hkey
      obtain ⟨call, hcall, hkeys⟩ := keys_mem_steps hstep
      obtain ⟨item, hitem, rfl⟩ := List.mem_map.mp hrow
      exact hexact call hcall key (by rwa [hkeys]) item hitem

/-! ### A second guest from Rome -/

/-- The second of those of the three oldest guests whose home is in Rome. -/
def guestCalls : List QueryCall :=
  [.step (.orderBy [⟨⟨["Age"]⟩, .descending⟩]), .step (.take 3),
    .step (.filter ⟨.compare ⟨⟨["Home", "City"]⟩, .eq, 0, true⟩, [.string "Rome"]⟩),
    .step (.skip 1)]

def guest (age : Int64) (city : String) : Json :=
  .object [("Age", .number (.ofInt64 age)), ("Home", .object [("City", .string city)])]

def guests : List Json :=
  [guest 31 "Rome", guest 64 "Oslo", guest 8 "Rome", guest 47 "Rome", .object [("Home", .null)]]

theorem second_guest_from_rome :
    (QueryCall.run guestCalls (MemoryQuery.ofList guests fun item => .ok item)).toList =
        .ok [guest 31 "Rome"] ∧
      ((QueryCall.run guestCalls (ofTable "guests" "document")).rows
        (guests.map fun item => (item, item))).map (·.2) = [guest 31 "Rome"] := by
  have hkept : (QueryCall.run guestCalls (MemoryQuery.ofList guests fun item => .ok item)).toList =
      .ok [guest 31 "Rome"] := by cbv
  have hasks := (statement_asks_as_memory guestCalls "guests" "document").2 guests
    (fun item => item) [guest 31 "Rome"] (by decide) (by decide) (by decide) hkept
  exact ⟨hkept, hasks⟩

end DocumentQuery

end FieldQuery
