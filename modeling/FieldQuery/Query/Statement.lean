import FieldQuery.Query.Expr

/-!
# Statements over stored documents

A SELECT statement over a table that holds documents in one column, and its text. Values never occur
in it: comparisons refer to numbered placeholders.
-/

namespace FieldQuery

/-! ## Quoting -/

/-- Every occurrence of a character is written as the given ones. -/
def replaceChar (c : Char) (by_ : List Char) (cs : List Char) : List Char :=
  cs.flatMap fun d => if d = c then by_ else [d]

/-- A name between double quotes, a quote within it doubled. -/
def quoteIdentifier (name : String) : String :=
  String.ofList ('"' :: replaceChar '"' ['"', '"'] name.toList ++ ['"'])

/-- A key of a document path: a quote within it has a backslash in front. -/
def jsonKey (name : String) : List Char :=
  '.' :: '"' :: replaceChar '"' ['\\', '"'] name.toList ++ ['"']

/-- The document path of a member, as a text literal with quotes doubled. -/
def jsonPath (member : MemberPath) : String :=
  let path := '$' :: member.members.flatMap jsonKey
  String.ofList ('\'' :: replaceChar '\'' ['\'', '\''] path ++ ['\''])

/-! ## Statements -/

/-- The document a condition is about. -/
inductive DocumentRef where
  /-- The document column of the row. -/
  | column
  /-- The element that the collection of this number is at. -/
  | element (number : Nat)
  deriving DecidableEq, Repr

inductive Condition where
  /-- A member compared with a placeholder, as points in time if `temporal`. -/
  | compare (document : DocumentRef) (member : MemberPath) (op : CompareOp) (placeholder : Nat)
      (temporal : Bool)
  /-- Some element of a collection, which gets this number, meets the condition. -/
  | exist (number : Nat) (document : DocumentRef) (collection : MemberPath) (element : Condition)
  | all (parts : List Condition)
  deriving Repr

/-- What follows the source of rows. -/
structure Clauses where
  conditions : List Condition
  orderBy : List SortKey
  limit : Option Nat
  offset : Nat
  /-- No row at all is wanted. -/
  isNone : Bool
  deriving Repr

/-- Where the rows of a statement come from. -/
inductive Source where
  | table (name : String)
  /-- The rows of an inner statement under a numbered name. -/
  | nested (source : Source) (clauses : Clauses) (number : Nat)
  deriving Repr

structure Statement where
  column : String
  source : Source
  clauses : Clauses
  deriving Repr

/-! ## Text -/

/-- `IS` holds for two nulls too. -/
def CompareOp.sql : CompareOp → String
  | .eq => "IS"
  | .ge => ">="
  | .lt => "<"

/-- The column itself has the given text. -/
def DocumentRef.sql (column : String) : DocumentRef → String
  | .column => column
  | .element number => "j" ++ toString number ++ ".value"

def jsonExtract (document : String) (member : MemberPath) : String :=
  "json_extract(" ++ document ++ ", " ++ jsonPath member ++ ")"

namespace Condition

mutual

def sql (column : String) : Condition → String
  | .compare document member op placeholder temporal =>
    let member := jsonExtract (document.sql column) member
    let value := "?" ++ toString placeholder
    if temporal then "datetime(" ++ member ++ ") " ++ op.sql ++ " datetime(" ++ value ++ ")"
    else member ++ " " ++ op.sql ++ " " ++ value
  | .exist number document collection element =>
    "EXISTS (SELECT 1 FROM json_each(" ++ document.sql column ++ ", " ++ jsonPath collection ++
      ") AS j" ++ toString number ++ " WHERE " ++ element.sql column ++ ")"
  | .all parts => " AND ".intercalate (partSql column parts)

def partSql (column : String) : List Condition → List String
  | [] => []
  | part :: rest => ("(" ++ part.sql column ++ ")") :: partSql column rest

end

end Condition

def SortKey.sql (column : String) (k : SortKey) : String :=
  jsonExtract column k.member ++
    match k.direction with
    | .ascending => " ASC"
    | .descending => " DESC"

namespace Clauses

def whereSql (column : String) (c : Clauses) : String :=
  if c.isNone then " WHERE 0"
  else if c.conditions.isEmpty then ""
  else " WHERE " ++ " AND ".intercalate (c.conditions.map (·.sql column))

def orderSql (column : String) (c : Clauses) : String :=
  if c.orderBy.isEmpty then "" else " ORDER BY " ++ ", ".intercalate (c.orderBy.map (·.sql column))

/-- An offset needs a limit in front of it; -1 is none. -/
def limitSql (c : Clauses) : String :=
  match c.limit, c.offset with
  | none, 0 => ""
  | some limit, 0 => " LIMIT " ++ toString limit
  | some limit, offset => " LIMIT " ++ toString limit ++ " OFFSET " ++ toString offset
  | none, offset => " LIMIT -1 OFFSET " ++ toString offset

def sql (column : String) (c : Clauses) : String :=
  c.whereSql column ++ c.orderSql column ++ c.limitSql

end Clauses

def selectSql (column source : String) (clauses : Clauses) : String :=
  "SELECT " ++ column ++ " FROM " ++ source ++ clauses.sql column

def Source.sql (column : String) : Source → String
  | .table name => quoteIdentifier name
  | .nested source clauses number =>
    "(" ++ selectSql column (source.sql column) clauses ++ ") AS s" ++ toString number

def Statement.sql (s : Statement) : String :=
  let column := quoteIdentifier s.column
  selectSql column (s.source.sql column) s.clauses

end FieldQuery
