import FieldQuery.Argument.List
import FieldQuery.Query.Expr
import FieldQuery.Request
import FieldQuery.Text.Alphanumeric

/-!
# The order of a request

The order-by text is a row of words. A word is the graph path of a filter argument, or a direction
for the path right in front of it; without one the order is ascending.
-/

namespace FieldQuery.Compose

/-! ## Words -/

def isWordChar (c : Char) : Bool := Text.isAlphanumeric c || c == '_'

/-- The word read so far, last character first, if there is one. -/
def endWord (word : List Char) : List String :=
  if word = [] then [] else [String.ofList word.reverse]

def wordsFrom (word : List Char) : List Char → List String
  | [] => endWord word
  | c :: rest =>
    if isWordChar c then wordsFrom (c :: word) rest else endWord word ++ wordsFrom [] rest

/-- The longest runs of word characters. -/
def words (text : String) : List String := wordsFrom [] text.toList

/-! ## Sort keys -/

/-- The member behind a graph path; a path through a list has no single value to sort by. -/
def sortMember (arguments : ArgumentList) (argument word : String) :
    Except QueryError MemberPath :=
  match arguments.findByGraphPath? word with
  | none => .error (.unknownOrderByField argument word)
  | some d =>
    if d.path.hasList then .error (.collectionOrderByField argument word)
    else .ok (.ofEntityPath d.path)

/-- The keys that the words ask for. -/
def sortKeys (arguments : ArgumentList) (argument : String) :
    List String → Except QueryError (List SortKey)
  | [] => .ok []
  | word :: rest =>
    if (SortDirection.parse? word).isSome then .error (.danglingDirection argument word)
    else do
      let member ← sortMember arguments argument word
      match rest with
      | [] => return [⟨member, .ascending⟩]
      | next :: others =>
        match SortDirection.parse? next with
        | some direction =>
          let keys ← sortKeys arguments argument others
          return ⟨member, direction⟩ :: keys
        | none =>
          let keys ← sortKeys arguments argument (next :: others)
          return ⟨member, .ascending⟩ :: keys

/-- The text of an order-by value; null is the empty text. -/
def orderText (argument : String) : Literal → Except QueryError String
  | .string s => .ok s
  | .enumeration name => .ok name
  | .null => .ok ""
  | _ => .error (.invalidOrderBy argument)

/-- The sort keys of a request; there are none if it asks for no order. -/
def orderBy (arguments : ArgumentList) (request : RequestArguments) :
    Except QueryError (List SortKey) :=
  match arguments.firstOf? .orderBy with
  | none => .ok []
  | some d =>
    match request.get? d.name with
    | none => .ok []
    | some value => do
      match words (← orderText d.name value) with
      | [] => throw (.emptyOrderBy d.name)
      | ws => sortKeys arguments d.name ws

end FieldQuery.Compose
