import Mathlib
import FieldQuery.Proofs.Query.Placeholders

/-!
# Names within a statement

The collections and the nested sources of a statement are named by numbers, which are counted
through all calls. No two have the same name. A condition follows its expression node by node, so an
element is referred to from within the search that names it, and from within no other search inside
that one.
-/

namespace FieldQuery

/-! ## Names that are introduced -/

namespace Condition

mutual

/-- The numbers of all searches, in the order of the text. -/
def numbers : Condition → List Nat
  | .compare .. => []
  | .exist number _ _ element => number :: numbers element
  | .all parts => numbersOf parts

def numbersOf : List Condition → List Nat
  | [] => []
  | part :: rest => numbers part ++ numbersOf rest

end

theorem numbersOf_append (before after : List Condition) :
    numbersOf (before ++ after) = numbersOf before ++ numbersOf after := by
  induction before with
  | nil => rfl
  | cons part rest ih => rw [List.cons_append, numbersOf, numbersOf, ih, List.append_assoc]

variable (params : List Parameter) (base : Nat)

mutual

/-- The searches of an expression get the numbers behind the last one, without a gap. -/
theorem numbers_ofExpr (e : Expr) (document : DocumentRef) (last : Nat) :
    ∃ k, (ofExpr params base e document last).1.numbers = List.range' (last + 1) k ∧
      (ofExpr params base e document last).2 = last + k := by
  match e with
  | .compare c => exact ⟨0, rfl, rfl⟩
  | .any collection np predicate =>
    obtain ⟨k, hnumbers, hlast⟩ := numbers_ofExpr predicate (.element (last + 1)) (last + 1)
    refine ⟨k + 1, ?_, ?_⟩
    · rw [ofExpr, numbers, hnumbers, List.range'_succ]
    · rw [ofExpr, hlast, Nat.add_assoc, Nat.add_comm 1 k]
  | .and parts =>
    rw [ofExpr, numbers]
    exact numbersOf_ofExprs parts document last

theorem numbersOf_ofExprs (parts : List Expr) (document : DocumentRef) (last : Nat) :
    ∃ k, numbersOf (ofExprs params base parts document last).1 = List.range' (last + 1) k ∧
      (ofExprs params base parts document last).2 = last + k := by
  match parts with
  | [] => exact ⟨0, rfl, rfl⟩
  | part :: rest =>
    obtain ⟨k, hnumbers, hlast⟩ := numbers_ofExpr part document last
    obtain ⟨more, hmore, hend⟩ := numbersOf_ofExprs rest document (last + k)
    refine ⟨k + more, ?_, ?_⟩
    · rw [ofExprs, numbersOf, hnumbers, hlast, hmore, Nat.add_right_comm, List.range'_append_1]
    · show (ofExprs params base rest document (ofExpr params base part document last).2).2 = _
      rw [hlast, hend, Nat.add_assoc]

end

/-- Two searches, one inside the other, and one beside them. -/
example : (ofExpr [] 0 (.and [.any ⟨["Rooms"]⟩ false (.any ⟨["Guests"]⟩ false (.and [])),
    .any ⟨["Staff"]⟩ false (.and [])]) .column 4).1.numbers = [5, 6, 7] := rfl

/-! ## Names that are referred to -/

mutual

/-- The condition says of a document what the expression says of its scope, node by node: every
search is one of its own, and what is searched for is about the element that it names. -/
inductive Renders : DocumentRef → Expr → Condition → Prop
  | compare {document : DocumentRef} (c : Comparison) (placeholder : Nat) (temporal : Bool) :
      Renders document (.compare c) (.compare document c.member c.op placeholder temporal)
  | any {document : DocumentRef} {predicate : Expr} {element : Condition}
      (collection : MemberPath) (np : Bool) (number : Nat)
      (inside : Renders (.element number) predicate element) :
      Renders document (.any collection np predicate) (.exist number document collection element)
  | and {document : DocumentRef} {parts : List Expr} {conditions : List Condition}
      (each : RendersAll document parts conditions) :
      Renders document (.and parts) (.all conditions)

inductive RendersAll : DocumentRef → List Expr → List Condition → Prop
  | nil {document : DocumentRef} : RendersAll document [] []
  | cons {document : DocumentRef} {part : Expr} {parts : List Expr} {condition : Condition}
      {conditions : List Condition} (first : Renders document part condition)
      (rest : RendersAll document parts conditions) :
      RendersAll document (part :: parts) (condition :: conditions)

end

mutual

theorem renders_ofExpr (e : Expr) (document : DocumentRef) (last : Nat) :
    Renders document e (ofExpr params base e document last).1 := by
  match e with
  | .compare c =>
    rw [ofExpr]
    exact .compare c _ _
  | .any collection np predicate =>
    rw [ofExpr]
    exact .any collection np (last + 1) (renders_ofExpr predicate _ _)
  | .and parts =>
    rw [ofExpr]
    exact .and (renders_ofExprs parts document last)

theorem renders_ofExprs (parts : List Expr) (document : DocumentRef) (last : Nat) :
    RendersAll document parts (ofExprs params base parts document last).1 := by
  match parts with
  | [] => exact .nil
  | part :: rest =>
    rw [ofExprs]
    exact .cons (renders_ofExpr part document last) (renders_ofExprs rest document _)

end

variable {x c : Condition} {numbers : List Nat} {document around : DocumentRef}

theorem partSql_eq_map (column : String) (parts : List Condition) :
    partSql column parts = (parts.map (·.sql column)).map fun text => "(" ++ text ++ ")" := by
  induction parts with
  | nil => rfl
  | cons part rest ih => rw [partSql, ih, List.map_cons, List.map_cons]

end Condition

/-! ## Names in the text -/

namespace Expr

mutual

/-- A text says of a document what the expression says of its scope. The searches in it name their
elements by these numbers, in the order of the text, and what is searched for is said of the name. -/
inductive Printed : (document : String) → Expr → (numbers : List Nat) → (text : String) → Prop
  | compare {document : String} (c : Comparison) (placeholder : Nat) :
      Printed document (.compare c) []
        (jsonExtract document c.member ++ " " ++ c.op.sql ++ " " ++
          ("?" ++ ToString.toString placeholder))
  | compareTimes {document : String} (c : Comparison) (placeholder : Nat) :
      Printed document (.compare c) []
        ("datetime(" ++ jsonExtract document c.member ++ ") " ++ c.op.sql ++ " datetime(" ++
          ("?" ++ ToString.toString placeholder) ++ ")")
  | any {document : String} {predicate : Expr} {numbers : List Nat} {text : String}
      (collection : MemberPath) (np : Bool) (number : Nat)
      (inside : Printed ("j" ++ ToString.toString number ++ ".value") predicate numbers text) :
      Printed document (.any collection np predicate) (number :: numbers)
        ("EXISTS (SELECT 1 FROM json_each(" ++ document ++ ", " ++ jsonPath collection ++ ") AS j" ++
          ToString.toString number ++ " WHERE " ++ text ++ ")")
  | and {document : String} {parts : List Expr} {numbers : List Nat} {texts : List String}
      (each : PrintedAll document parts numbers texts) :
      Printed document (.and parts) numbers
        (" AND ".intercalate (texts.map fun text => "(" ++ text ++ ")"))

inductive PrintedAll : (document : String) → List Expr → (numbers : List Nat) →
    (texts : List String) → Prop
  | nil {document : String} : PrintedAll document [] [] []
  | cons {document : String} {part : Expr} {parts : List Expr} {numbers more : List Nat}
      {text : String} {texts : List String} (first : Printed document part numbers text)
      (rest : PrintedAll document parts more texts) :
      PrintedAll document (part :: parts) (numbers ++ more) (text :: texts)

end

end Expr

namespace Condition

mutual

theorem Renders.printed {document : DocumentRef} {e : Expr} {c : Condition}
    (h : Renders document e c) (column : String) :
    e.Printed (document.sql column) c.numbers (c.sql column) := by
  match h with
  | .compare c placeholder temporal =>
    cases temporal with
    | false => exact .compare c placeholder
    | true => exact .compareTimes c placeholder
  | .any collection np number inside =>
    rw [sql_exist, numbers]
    exact .any collection np number (inside.printed column)
  | .and each =>
    rw [sql_all, numbers, partSql_eq_map]
    exact .and (each.printed column)

theorem RendersAll.printed {document : DocumentRef} {parts : List Expr}
    {conditions : List Condition} (h : RendersAll document parts conditions) (column : String) :
    Expr.PrintedAll (document.sql column) parts (numbersOf conditions)
      (conditions.map (·.sql column)) := by
  match h with
  | .nil => exact .nil
  | .cons first rest =>
    rw [numbersOf, List.map_cons]
    exact .cons (first.printed column) (rest.printed column)

end

/-- What is said of guests is said of `j2`, and where guests are looked for of `j1`. -/
example : (ofExpr [] 0 (.any ⟨["Rooms"]⟩ false (.any ⟨["Guests"]⟩ false
    (.compare ⟨⟨["Age"]⟩, .eq, 0, false⟩))) .column 0).1.sql "doc" =
      "EXISTS (SELECT 1 FROM json_each(doc, '$.\"Rooms\"') AS j1 WHERE " ++
        "EXISTS (SELECT 1 FROM json_each(j1.value, '$.\"Guests\"') AS j2 WHERE " ++
        "json_extract(j2.value, '$.\"Age\"') IS ?1))" := by
  decide +kernel

end Condition

/-! ## Statements -/

def Clauses.numbers (c : Clauses) : List Nat := Condition.numbersOf c.conditions

/-- An inner statement stands in front of the name that it gets. -/
def Source.numbers : Source → List Nat
  | .table _ => []
  | .nested source clauses number => source.numbers ++ clauses.numbers ++ [number]

/-- The numbers of all searches and nested sources, in the order of the text. -/
def Statement.numbers (s : Statement) : List Nat := s.source.numbers ++ s.clauses.numbers

namespace DocumentQuery

variable {q r : DocumentQuery} {filters : List Filter}

/-- The numbers are counted without a gap, and each filter has a condition that renders it. -/
structure Named (q : DocumentQuery) (filters : List Filter) : Prop where
  numbers : q.statement.numbers = List.range' 1 q.lastNumber
  rendered : List.Forall₂ (fun f c => Condition.Renders .column f.expr c) filters
    q.statement.conditions

theorem Follows.conditions_eq (h : Follows q [] r) :
    r.statement.conditions = q.statement.conditions := by
  obtain ⟨more, hmore, hwritten⟩ := h.conditions
  cases hwritten
  rw [hmore, List.append_nil]

theorem Named.withClauses (h : q.Named filters) {clauses : Clauses}
    (hclauses : clauses.conditions = q.clauses.conditions) :
    (q.withClauses clauses).Named filters := by
  refine ⟨?_, ?_⟩
  · rw [show (q.withClauses clauses).lastNumber = q.lastNumber from rfl, ← h.numbers]
    exact congrArg (q.statement.source.numbers ++ Condition.numbersOf ·) hclauses
  · rw [(follows_withClauses hclauses).conditions_eq]
    exact h.rendered

theorem Named.unpaged (h : q.Named filters) : q.unpaged.Named filters := by
  refine ⟨?_, ?_⟩
  · unfold DocumentQuery.unpaged
    split
    · have hnumbers : q.nested.statement.numbers = q.statement.numbers ++ [q.lastNumber + 1] :=
        List.append_nil _
      rw [hnumbers, h.numbers, nested, List.range'_1_concat, Nat.add_comm 1]
    · exact h.numbers
  · rw [(follows_unpaged q).conditions_eq]
    exact h.rendered

theorem numbers_filter (q : DocumentQuery) (f : Filter) :
    ∃ k, (q.filter f).statement.numbers =
        q.unpaged.statement.numbers ++ List.range' (q.unpaged.lastNumber + 1) k ∧
      (q.filter f).lastNumber = q.unpaged.lastNumber + k := by
  obtain ⟨k, hnumbers, hlast⟩ := Condition.numbers_ofExpr f.params q.unpaged.params.length f.expr
    .column q.unpaged.lastNumber
  refine ⟨k, ?_, hlast⟩
  have hnew (c : Condition) : Condition.numbersOf (q.unpaged.clauses.conditions ++ [c]) =
      q.unpaged.clauses.numbers ++ c.numbers := by
    rw [Condition.numbersOf_append, Condition.numbersOf, Condition.numbersOf, List.append_nil,
      Clauses.numbers]
  rw [← hnumbers, Statement.numbers, Statement.numbers, List.append_assoc]
  exact congrArg (q.unpaged.statement.source.numbers ++ ·) (hnew _)

theorem Named.filter (h : q.Named filters) (f : Filter) : (q.filter f).Named (filters ++ [f]) := by
  obtain ⟨hnumbers, hrendered⟩ := h.unpaged
  refine ⟨?_, ?_⟩
  · obtain ⟨k, hmore, hlast⟩ := numbers_filter q f
    rw [hmore, hlast, hnumbers, Nat.add_comm q.unpaged.lastNumber 1, List.range'_append_1]
  · rw [conditions_filter]
    exact List.rel_append hrendered (.cons (Condition.renders_ofExpr _ _ f.expr .column _) .nil)

theorem Named.call (h : q.Named filters) (call : QueryCall) :
    (call.apply q).Named (filters ++ call.filter?.toList) := by
  -- Only a filter adds to the filters.
  have hsame {r : DocumentQuery} (hr : r.Named filters) : r.Named (filters ++ []) := by
    rwa [List.append_nil]
  cases call with
  | none => exact hsame (h.withClauses rfl)
  | step step =>
    cases step with
    | filter f => exact h.filter f
    | orderBy keys =>
      show (q.orderBy keys).Named (filters ++ [])
      unfold orderBy
      split
      · exact hsame h
      · exact hsame (h.unpaged.withClauses rfl)
    | skip count | take count => exact hsame (h.withClauses rfl)

theorem Named.run (h : q.Named filters) (calls : List QueryCall) :
    (QueryCall.run calls q).Named (filters ++ QueryCall.filters calls) := by
  induction calls generalizing q filters with
  | nil => rwa [QueryCall.filters, List.filterMap_nil, List.append_nil]
  | cons call rest ih =>
    rw [QueryCall.filters_cons, ← List.append_assoc]
    exact ih (h.call call)

end DocumentQuery

end FieldQuery
