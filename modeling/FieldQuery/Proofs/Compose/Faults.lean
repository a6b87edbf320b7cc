import Mathlib
import FieldQuery.Compose.Plan
import FieldQuery.Proofs.Compose.Independence
import FieldQuery.Proofs.Query.Refinement

/-!
# Faults of a request

All that is wrong with a request, in the order in which it is read. Composition reports the first
fault and asks for nothing, now and after any later call.
-/

namespace FieldQuery

/-! ## The first of many faults -/

/-- A computation that fails with the first of its faults, and succeeds without one. -/
def FailsFirst {ε α : Type} (x : Except ε α) (faults : List ε) : Prop :=
  ∀ e, x = .error e ↔ faults.head? = some e

namespace FailsFirst

variable {ε α β : Type} {x : Except ε α} {faults others : List ε}

theorem ok (a : α) : FailsFirst (.ok a : Except ε α) [] := by simp [FailsFirst]

theorem error (e : ε) (later : List ε) : FailsFirst (.error e : Except ε α) (e :: later) := by
  simp [FailsFirst]

theorem faults_eq_nil (h : FailsFirst x faults) {a : α} (hx : x = .ok a) : faults = [] := by
  cases faults with
  | nil => rfl
  | cons e later =>
    have herror := (h e).mpr rfl
    rw [hx] at herror
    cases herror

theorem exists_ok_iff (h : FailsFirst x faults) : (∃ a, x = .ok a) ↔ faults = [] := by
  constructor
  · rintro ⟨a, hx⟩
    exact h.faults_eq_nil hx
  · rintro rfl
    cases x with
    | ok a => exact ⟨a, rfl⟩
    | error e => cases (h e).mp rfl

theorem bind (h : FailsFirst x faults) {f : α → Except ε β}
    (hf : ∀ a, x = .ok a → FailsFirst (f a) others) : FailsFirst (x >>= f) (faults ++ others) := by
  intro e
  rw [bind_eq_error]
  -- The second faults count only if the first computation succeeds, and then it has none.
  cases x with
  | ok a =>
    rw [h.faults_eq_nil rfl, List.nil_append, ← hf a rfl e]
    simp
  | error e' =>
    have hhead := (h e').mp rfl
    rw [List.head?_append, hhead]
    simp

theorem bind_ok (h : FailsFirst x faults) (f : α → β) :
    FailsFirst (x >>= fun a => .ok (f a)) faults := by
  rw [← List.append_nil faults]
  exact h.bind fun a _ => ok (f a)

end FailsFirst

/-! ## Filters -/

namespace Literal

mutual

/-- Why parts of a value cannot be compared, from left to right. -/
def incomparable : Literal → List String
  | .object _ => ["input objects cannot be compared"]
  | .binary _ => ["binary values cannot be compared"]
  | .list items => incomparableIn items
  | _ => []

def incomparableIn : List Literal → List String
  | [] => []
  | item :: rest => incomparable item ++ incomparableIn rest

end

mutual

theorem ofLiteral_failsFirst (argument : String) (value : Literal) :
    FailsFirst (Parameter.ofLiteral argument value)
      (value.incomparable.map (.unsupportedValue argument)) := by
  match value with
  | .object _ | .binary _ =>
    rw [Parameter.ofLiteral, incomparable]
    exact .error _ []
  | .list items =>
    rw [Parameter.ofLiteral, incomparable]
    exact (ofLiterals_failsFirst argument items).bind_ok Parameter.list
  | .null | .boolean _ | .number _ | .string _ | .enumeration _ =>
    simp only [Parameter.ofLiteral, incomparable, List.map_nil]
    exact .ok _

theorem ofLiterals_failsFirst (argument : String) (items : List Literal) :
    FailsFirst (Parameter.ofLiterals argument items)
      ((incomparableIn items).map (.unsupportedValue argument)) := by
  match items with
  | [] =>
    rw [Parameter.ofLiterals, incomparableIn]
    exact .ok []
  | item :: rest =>
    rw [Parameter.ofLiterals, incomparableIn, List.map_append]
    refine (ofLiteral_failsFirst argument item).bind fun first _ => ?_
    exact (ofLiterals_failsFirst argument rest).bind_ok (first :: ·)

end

end Literal

namespace FilterArgument

def dayFaults (a : FilterArgument) (value : Literal) : List QueryError :=
  if (a.dayStart? value).any (·.nextDay?.isNone) then
    [.unsupportedValue a.graphPath "date out of range"]
  else []

def faults (a : FilterArgument) (value : Literal) : List QueryError :=
  a.dayFaults value ++ value.incomparable.map (.unsupportedValue a.graphPath)

theorem day?_failsFirst (a : FilterArgument) (value : Literal) :
    FailsFirst (a.day? value) (a.dayFaults value) := by
  cases value with
  | string text =>
    unfold day? dayFaults dayStart?
    cases a.type.isDate with
    | false => exact .ok none
    | true =>
      simp only [if_true]
      cases DateTime.read? text with
      | none => exact .ok none
      | some start =>
        cases hnext : start.nextDay? with
        | none =>
          simp only [Option.any_some, hnext, Option.isNone_none, if_true]
          exact .error _ []
        | some stop =>
          simp only [Option.any_some, hnext, Option.isNone_some, Bool.false_eq_true, if_false]
          exact .ok _
  | null | boolean | number | enumeration | binary | list | object => exact .ok none

theorem incomparable_of_day {a : FilterArgument} {value : Literal} {start : DateTime}
    (h : a.dayStart? value = some start) : value.incomparable = [] := by
  cases value with
  | string text => rfl
  | null | boolean | number | enumeration | binary | list | object => cases h

theorem leaf_failsFirst (a : FilterArgument) (value : Literal) (first : Nat) :
    FailsFirst (a.leaf value first) (a.faults value) := by
  refine (a.day?_failsFirst value).bind fun day hday => ?_
  rcases day?_ok hday with ⟨rfl, -⟩ | ⟨start, stop, rfl, hstart, -⟩
  · exact (Literal.ofLiteral_failsFirst a.graphPath value).bind_ok _
  · rw [incomparable_of_day hstart]
    exact .ok _

end FilterArgument

namespace Compose

variable {arguments : ArgumentList} {request : RequestArguments}

def filterFaults (arguments : ArgumentList) (request : RequestArguments) : List QueryError :=
  (suppliedFilters request arguments.filters).flatMap fun (a, value) => a.faults value

theorem fragments_failsFirst (request : RequestArguments) (first : Nat)
    (filters : List FilterArgument) :
    FailsFirst (fragments request first filters)
      ((suppliedFilters request filters).flatMap fun (a, value) => a.faults value) := by
  induction filters generalizing first with
  | nil => exact .ok _
  | cons a rest ih =>
    rw [fragments, suppliedFilters, List.filterMap_cons, ← suppliedFilters]
    cases request.supplied? a.graphPath with
    | none => exact ih first
    | some value =>
      rw [Option.map_some, List.flatMap_cons]
      refine ((a.leaf_failsFirst value first).bind_ok _).bind fun fragment _ => ?_
      exact (ih _).bind_ok _

theorem filter?_failsFirst (arguments : ArgumentList) (request : RequestArguments) :
    FailsFirst (filter? arguments request) (filterFaults arguments request) := by
  rw [filter?, ← List.append_nil (filterFaults arguments request)]
  refine (fragments_failsFirst request 0 arguments.filters).bind ?_
  rintro ⟨exprs, params⟩ -
  cases exprs with
  | nil => exact .ok none
  | cons expr others => exact .ok _

/-! ## Order -/

def isDirection (word : String) : Bool := (SortDirection.parse? word).isSome

/-- What is wrong with a word behind another. A direction belongs right behind a field. -/
def wordFault? (arguments : ArgumentList) (argument : String) (before : Option String)
    (word : String) : Option QueryError :=
  if isDirection word then
    if before.any (!isDirection ·) then none else some (.danglingDirection argument word)
  else
    match arguments.findByGraphPath? word with
    | none => some (.unknownOrderByField argument word)
    | some d => if d.path.hasList then some (.collectionOrderByField argument word) else none

def wordFaults (arguments : ArgumentList) (argument : String) (before : Option String) :
    List String → List QueryError
  | [] => []
  | word :: rest =>
    (wordFault? arguments argument before word).toList ++
      wordFaults arguments argument (some word) rest

def textFaults (arguments : ArgumentList) (argument text : String) : List QueryError :=
  if words text = [] then [.emptyOrderBy argument]
  else wordFaults arguments argument none (words text)

def orderFaults (arguments : ArgumentList) (request : RequestArguments) : List QueryError :=
  match arguments.firstOf? .orderBy with
  | none => []
  | some d =>
    match request.get? d.name with
    | none => []
    | some (.string text) | some (.enumeration text) => textFaults arguments d.name text
    | some .null => textFaults arguments d.name ""
    | some _ => [.invalidOrderBy d.name]

theorem sortMember_failsFirst {argument word : String} (h : isDirection word = false)
    (before : Option String) :
    FailsFirst (sortMember arguments argument word)
      (wordFault? arguments argument before word).toList := by
  rw [sortMember, wordFault?, h, if_neg (by simp)]
  cases arguments.findByGraphPath? word with
  | none => exact .error _ []
  | some d =>
    simp only
    split
    · exact .error _ []
    · exact .ok _

theorem wordFault?_field {argument word : String} (h : isDirection word = false)
    (before before' : Option String) :
    wordFault? arguments argument before word = wordFault? arguments argument before' word := by
  unfold wordFault?
  rw [h]
  rfl

theorem wordFaults_field {argument word : String} (h : isDirection word = false)
    (before before' : Option String) (rest : List String) :
    wordFaults arguments argument before (word :: rest) =
      wordFaults arguments argument before' (word :: rest) := by
  rw [wordFaults, wordFaults, wordFault?_field h before before']

theorem wordFaults_direction {argument word next : String} (hword : isDirection word = false)
    (hnext : isDirection next = true) (rest : List String) :
    wordFaults arguments argument (some word) (next :: rest) =
      wordFaults arguments argument (some next) rest := by
  rw [wordFaults, wordFault?, if_pos hnext, Option.any_some, hword]
  rfl

theorem sortKeys_failsFirst (arguments : ArgumentList) (argument : String) (ws : List String)
    (before : Option String) (h : before.any (!isDirection ·) = false) :
    FailsFirst (sortKeys arguments argument ws) (wordFaults arguments argument before ws) := by
  induction ws using sortKeys.induct generalizing before with
  | case1 => exact .ok []
  | case2 word rest hword =>
    have hdirection : isDirection word = true := hword
    rw [sortKeys, if_pos hword, wordFaults, wordFault?, if_pos hdirection, h]
    exact .error _ _
  | case3 word rest hword ih =>
    -- A direction right behind the field is read with it; any other word starts afresh.
    have hfield : isDirection word = false := by simpa [isDirection] using hword
    rw [sortKeys, if_neg hword, wordFaults]
    refine (sortMember_failsFirst hfield before).bind fun member _ => ?_
    cases rest with
    | nil => exact .ok _
    | cons next others =>
      cases hnext : SortDirection.parse? next with
      | some direction =>
        have hdirection : isDirection next = true := by rw [isDirection, hnext, Option.isSome_some]
        rw [wordFaults_direction hfield hdirection]
        simp only [hnext]
        exact (ih.1 (some next) (by simp [hdirection])).bind_ok _
      | none =>
        have hnextField : isDirection next = false := by rw [isDirection, hnext, Option.isSome_none]
        rw [wordFaults_field hnextField (some word) none]
        simp only [hnext]
        exact (ih.2 none rfl).bind_ok _

theorem text_failsFirst (arguments : ArgumentList) (argument text : String) :
    FailsFirst
      (match words text with
      | [] => throw (.emptyOrderBy argument)
      | ws => sortKeys arguments argument ws)
      (textFaults arguments argument text) := by
  unfold textFaults
  cases words text with
  | nil => exact .error _ []
  | cons word rest => exact sortKeys_failsFirst arguments argument (word :: rest) none rfl

theorem orderBy_failsFirst (arguments : ArgumentList) (request : RequestArguments) :
    FailsFirst (orderBy arguments request) (orderFaults arguments request) := by
  unfold orderBy orderFaults
  cases arguments.firstOf? .orderBy with
  | none => exact .ok []
  | some d =>
    simp only
    cases request.get? d.name with
    | none => exact .ok []
    | some value =>
      cases value with
      | string text | enumeration text => exact text_failsFirst arguments d.name text
      | null => exact text_failsFirst arguments d.name ""
      | boolean | number | binary | list | object => exact .error _ []

/-! ## Page -/

def countFaults (argument : String) (value : Literal) : List QueryError :=
  if (rowCount? value).isNone then [.invalidPagingValue argument (shownValue value)] else []

/-- The product of two counts that can be read may be too large. -/
def overflowFaults (page pageSize : String) (index size : Literal) : List QueryError :=
  match rowCount? index, rowCount? size with
  | some index, some size => if index * size ≤ maxRows then [] else [.pagingOverflow page pageSize]
  | _, _ => []

def pagingFaults (arguments : ArgumentList) (request : RequestArguments) : List QueryError :=
  match arguments.firstOf? .page, arguments.firstOf? .pageSize with
  | some page, some pageSize =>
    match request.supplied? page.name, request.supplied? pageSize.name with
    | none, none => []
    | some _, none => [.incompletePaging pageSize.name page.name]
    | none, some _ => [.incompletePaging page.name pageSize.name]
    | some index, some size =>
      countFaults page.name index ++
        (countFaults pageSize.name size ++ overflowFaults page.name pageSize.name index size)
  | _, _ => []

theorem rowCount_failsFirst (argument : String) (value : Literal) :
    FailsFirst (rowCount argument value) (countFaults argument value) := by
  unfold rowCount countFaults
  cases hcount : rowCount? value with
  | none =>
    rw [if_pos (Option.isNone_none)]
    exact .error _ []
  | some n => exact .ok n

theorem rowCount_eq_ok {argument : String} {value : Literal} {n : Nat} :
    rowCount argument value = .ok n ↔ rowCount? value = some n := by
  unfold rowCount
  cases rowCount? value <;> simp

theorem paging?_failsFirst (arguments : ArgumentList) (request : RequestArguments) :
    FailsFirst (paging? arguments request) (pagingFaults arguments request) := by
  unfold paging? pagingFaults
  cases arguments.firstOf? .page with
  | none => exact .ok none
  | some page =>
    cases arguments.firstOf? .pageSize with
    | none => exact .ok none
    | some pageSize =>
      simp only
      cases request.supplied? page.name with
      | none =>
        cases request.supplied? pageSize.name with
        | none => exact .ok none
        | some size => exact .error _ []
      | some index =>
        cases request.supplied? pageSize.name with
        | none => exact .error _ []
        | some size =>
          refine (rowCount_failsFirst page.name index).bind fun i hi => ?_
          refine (rowCount_failsFirst pageSize.name size).bind fun n hn => ?_
          rw [overflowFaults, rowCount_eq_ok.mp hi, rowCount_eq_ok.mp hn]
          simp only
          split
          · exact .ok _
          · exact .error _ []

/-! ## The whole request -/

def faults (arguments : ArgumentList) (request : RequestArguments) : List QueryError :=
  filterFaults arguments request ++
    (orderFaults arguments request ++ pagingFaults arguments request)

theorem plan_failsFirst (arguments : ArgumentList) (request : RequestArguments) :
    FailsFirst (plan arguments request) (faults arguments request) := by
  refine (filter?_failsFirst arguments request).bind fun filter _ => ?_
  refine (orderBy_failsFirst arguments request).bind fun order _ => ?_
  exact (paging?_failsFirst arguments request).bind_ok _

end Compose

/-! ## Empty for good -/

namespace MemoryQuery

variable {α : Type}

theorem toList_after_none (q : MemoryQuery α) (calls : List QueryCall) :
    (QueryCall.run calls (Queryable.none q)).toList = .ok [] := by
  rw [run_eq, toList]
  rfl

end MemoryQuery

namespace DocumentQuery

theorem isNone_after_none (q : DocumentQuery) (calls : List QueryCall) :
    (QueryCall.run calls (Queryable.none q)).isNone = true := by
  rw [isNone_run]
  rfl

theorem sql_of_isNone {q : DocumentQuery} (h : q.isNone = true) :
    let column := quoteIdentifier q.statement.column
    q.sql = "SELECT " ++ column ++ " FROM " ++ q.statement.source.sql column ++
      (" WHERE 0" ++ q.clauses.orderSql column ++ q.clauses.limitSql) := by
  intro column
  have hwhere : q.clauses.whereSql column = " WHERE 0" := if_pos h
  rw [← hwhere]
  rfl

end DocumentQuery

namespace Compose

/-- A request without a fault is composed and nothing is logged. Of any other the first fault is
logged, and whatever is called next, no row is asked for: not even a document of the items. -/
theorem build_fails_safe (arguments : ArgumentList) (request : RequestArguments) (log : ErrorLog) :
    (∀ p, plan arguments request = .ok p →
      faults arguments request = [] ∧
        ∀ {Q : Type} [Queryable Q] (source : Q),
          tryBuild source arguments request = .ok (build source arguments request log).1 ∧
            (build source arguments request log).2 = log) ∧
    (∀ e, plan arguments request = .error e →
      (faults arguments request).head? = some e ∧
        (∀ {Q : Type} [Queryable Q] (source : Q),
          tryBuild source arguments request = .error e ∧
            (build source arguments request log).2.errors = log.errors ++ [e]) ∧
        (∀ {α : Type} (source : MemoryQuery α) (calls : List QueryCall),
          (QueryCall.run calls (build source arguments request log).1).toList = .ok []) ∧
        ∀ (source : DocumentQuery) (calls : List QueryCall),
          let q := QueryCall.run calls (build source arguments request log).1
          let column := quoteIdentifier q.statement.column
          q.sql = "SELECT " ++ column ++ " FROM " ++ q.statement.source.sql column ++
              (" WHERE 0" ++ q.clauses.orderSql column ++ q.clauses.limitSql) ∧
            ∀ {α : Type} (table : List (Row α)), q.rows table = []) := by
  constructor
  · intro p hp
    refine ⟨(plan_failsFirst arguments request).faults_eq_nil hp, ?_⟩
    intro Q _ source
    rw [tryBuild, build, hp]
    exact ⟨rfl, rfl⟩
  · intro e he
    refine ⟨(plan_failsFirst arguments request e).mp he, ?_, ?_, ?_⟩
    · intro Q _ source
      rw [tryBuild, build, he]
      exact ⟨rfl, rfl⟩
    · intro α source calls
      rw [build, he]
      exact source.toList_after_none calls
    · intro source calls
      rw [build, he]
      have hnone := source.isNone_after_none calls
      exact ⟨DocumentQuery.sql_of_isNone hnone, DocumentQuery.rows_of_isNone hnone⟩

/-! ### A request with three faults -/

def faultyStays : RequestArguments :=
  ⟨[("guest", .list [.string "Ann", .object []]), ("orderby", .string "day desc desc"),
    ("page", .number (.ofInt64 1))]⟩

def unreadStays : MemoryQuery Nat := .ofList [1, 2] fun _ => .error "no document"

def laterCalls : List QueryCall := [.step (.take 1), .step (.filter annOnThirdFilter)]

theorem faultyStays_ask_for_nothing :
    let log : ErrorLog := ⟨[.emptyEntityPath "Price"]⟩
    let stays := build unreadStays pagedStays faultyStays log
    let stored := build (DocumentQuery.ofTable "stays" "doc") pagedStays faultyStays log
    faults pagedStays faultyStays =
        [.unsupportedValue "Guest" "input objects cannot be compared",
          .danglingDirection "OrderBy" "desc", .incompletePaging "PageSize" "Page"] ∧
      stays.2.errors =
        [.emptyEntityPath "Price", .unsupportedValue "Guest" "input objects cannot be compared"] ∧
      (QueryCall.run laterCalls stays.1).toList = .ok [] ∧
      (QueryCall.run laterCalls stored.1).sql =
        "SELECT \"doc\" FROM (SELECT \"doc\" FROM \"stays\" WHERE 0 LIMIT 1) AS s1 WHERE 0" ∧
      (build unreadStays pagedStays annsStays log).2 = log := by
  intro log stays stored
  have hfaults : faults pagedStays faultyStays =
      [.unsupportedValue "Guest" "input objects cannot be compared",
        .danglingDirection "OrderBy" "desc", .incompletePaging "PageSize" "Page"] := by
    decide +kernel
  have hplan : plan pagedStays faultyStays =
      .error (.unsupportedValue "Guest" "input objects cannot be compared") :=
    (plan_failsFirst _ _ _).mpr (by rw [hfaults]; rfl)
  obtain ⟨-, hlog, hitems, hsql⟩ := (build_fails_safe pagedStays faultyStays log).2 _ hplan
  have hgood := (build_fails_safe pagedStays annsStays log).1 _ annsStays_plan
  refine ⟨hfaults, (hlog unreadStays).2, hitems unreadStays laterCalls, ?_,
    (hgood.2 unreadStays).2⟩
  rw [(hsql (.ofTable "stays" "doc") laterCalls).1]
  decide +kernel

end Compose

end FieldQuery
