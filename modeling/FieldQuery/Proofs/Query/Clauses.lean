import Mathlib
import FieldQuery.Proofs.Query.Reading

/-!
# Clauses as they are printed

What the text of a statement says, clause by clause: where its rows come from, which of them are
kept, in which order, and which part of them is wanted. These are the rows that the statement is read
as asking for.
-/

namespace FieldQuery

variable {α : Type}

/-! ## What a text says -/

/-- As many rows at most, or all of them if the number is negative. -/
def atMost (count : Int) (rows : List (Row α)) : List (Row α) :=
  if count < 0 then rows else rows.take count.toNat

/-- Which rows a text keeps. -/
inductive WherePrinted (params : List Parameter) (column : String) (rows : List (Row α)) :
    (text : String) → (kept : List (Row α)) → Prop
  | all : WherePrinted params column rows "" rows
  | nothing : WherePrinted params column rows " WHERE 0" []
  | every {conditions : List Condition} (hne : conditions ≠ []) :
      WherePrinted params column rows
        (" WHERE " ++ " AND ".intercalate (conditions.map (·.sql column)))
        (rows.filter fun row => conditions.all (·.meets params (.ofRow row.1)))

inductive KeyPrinted (column : String) : (text : String) → SortKey → Prop
  | ascending (member : MemberPath) :
      KeyPrinted column (jsonExtract column member ++ " ASC") ⟨member, .ascending⟩
  | descending (member : MemberPath) :
      KeyPrinted column (jsonExtract column member ++ " DESC") ⟨member, .descending⟩

/-- Which keys a text sorts by, the first of them first. -/
inductive OrderPrinted (column : String) : (text : String) → List SortKey → Prop
  | none : OrderPrinted column "" []
  | keys {texts : List String} {keys : List SortKey} (hne : keys ≠ [])
      (each : List.Forall₂ (KeyPrinted column) texts keys) :
      OrderPrinted column (" ORDER BY " ++ ", ".intercalate texts) keys

/-- Which part of the rows a text asks for. The rows of an offset are not counted. -/
inductive PagePrinted (rows : List (Row α)) : (text : String) → (part : List (Row α)) → Prop
  | all : PagePrinted rows "" rows
  | limit (count : Int) : PagePrinted rows (" LIMIT " ++ toString count) (atMost count rows)
  | offset (count : Int) (offset : Nat) :
      PagePrinted rows (" LIMIT " ++ toString count ++ " OFFSET " ++ toString offset)
        (atMost count (rows.drop offset))

mutual

/-- Which rows of a table the text of a statement asks for. -/
inductive SelectPrinted (params : List Parameter) (column : String) (table : List (Row α)) :
    (text : String) → (rows : List (Row α)) → Prop
  | select {source wheres order page : String} {rows kept part : List (Row α)}
      {keys : List SortKey} (hsource : SourcePrinted params column table source rows)
      (hwhere : WherePrinted params column rows wheres kept)
      (horder : OrderPrinted column order keys)
      (hpage : PagePrinted (sortRows keys kept) page part) :
      SelectPrinted params column table
        ("SELECT " ++ column ++ " FROM " ++ source ++ (wheres ++ order ++ page)) part

inductive SourcePrinted (params : List Parameter) (column : String) (table : List (Row α)) :
    (text : String) → (rows : List (Row α)) → Prop
  | table (name : String) : SourcePrinted params column table (quoteIdentifier name) table
  | nested {text : String} {rows : List (Row α)} (number : Nat)
      (hselect : SelectPrinted params column table text rows) :
      SourcePrinted params column table ("(" ++ text ++ ") AS s" ++ toString number) rows

end

/-! ## What is printed -/

theorem atMost_natCast (limit : Nat) (rows : List (Row α)) :
    atMost (limit : Int) rows = rows.take limit := by
  rw [atMost, if_neg (by omega), Int.toNat_natCast]

theorem SortKey.sql_printed (column : String) (k : SortKey) : KeyPrinted column (k.sql column) k := by
  obtain ⟨member, direction⟩ := k
  cases direction with
  | ascending => exact .ascending member
  | descending => exact .descending member

namespace Clauses

variable (c : Clauses) (column : String)

theorem orderSql_printed : OrderPrinted column (c.orderSql column) c.orderBy := by
  unfold orderSql
  split
  case isTrue h =>
    rw [List.isEmpty_iff.mp h]
    exact .none
  case isFalse h =>
    refine .keys (by simpa using h) ?_
    rw [List.forall₂_map_left_iff]
    exact List.forall₂_same.mpr fun k _ => k.sql_printed column

theorem limitSql_printed (rows : List (Row α)) :
    PagePrinted rows c.limitSql (c.window rows) := by
  unfold limitSql window
  cases c.limit with
  | none =>
    cases c.offset with
    | zero => exact .all
    | succ n =>
      have htext : " LIMIT -1 OFFSET " = " LIMIT " ++ toString (-1 : Int) ++ " OFFSET " := by decide
      rw [htext]
      exact .offset (-1) (n + 1)
  | some limit =>
    cases c.offset with
    | zero =>
      have hpage : PagePrinted rows _ _ := .limit (limit : Int)
      rw [atMost_natCast] at hpage
      exact hpage
    | succ n =>
      have hpage : PagePrinted rows _ _ := .offset (limit : Int) (n + 1)
      rw [atMost_natCast] at hpage
      exact hpage

theorem whereSql_printed (params : List Parameter) (rows : List (Row α)) :
    WherePrinted params column rows (c.whereSql column)
      (if c.isNone then [] else rows.filter (c.keeps params)) := by
  unfold whereSql
  split
  case isTrue => exact .nothing
  case isFalse =>
    split
    case isTrue h =>
      have hkeeps : c.keeps params = fun _ : Row α => true := by
        unfold keeps
        rw [List.isEmpty_iff.mp h]
        rfl
      rw [hkeeps, List.filter_true]
      exact .all
    case isFalse h => exact .every (by simpa using h)

theorem rows_eq_window (params : List Parameter) (rows : List (Row α)) :
    c.rows params rows =
      c.window (sortRows c.orderBy (if c.isNone then [] else rows.filter (c.keeps params))) := by
  unfold Clauses.rows
  split
  case isTrue => exact (List.sublist_nil.mp (c.window_sublist [])).symm
  case isFalse => rfl

theorem selectSql_printed {params : List Parameter} {table rows : List (Row α)} {source : String}
    (h : SourcePrinted params column table source rows) :
    SelectPrinted params column table (selectSql column source c) (c.rows params rows) := by
  rw [rows_eq_window]
  exact .select h (c.whereSql_printed column params rows) (c.orderSql_printed column)
    (c.limitSql_printed _)

end Clauses

theorem Source.sql_printed (params : List Parameter) (column : String) (table : List (Row α))
    (source : Source) :
    SourcePrinted params column table (source.sql column) (source.rows params table) := by
  induction source with
  | table name => exact .table name
  | nested source clauses number ih => exact .nested number (clauses.selectSql_printed column ih)

/-- The text of a statement asks for the rows that the statement is read as asking for: in every
statement within it the source, the conditions, the order, the limit and the offset are printed as
they are read. -/
theorem Statement.sql_printed (params : List Parameter) (table : List (Row α)) (s : Statement) :
    SelectPrinted params (quoteIdentifier s.column) table s.sql (s.rows params table) :=
  s.clauses.selectSql_printed _ (s.source.sql_printed params _ table)

end FieldQuery
