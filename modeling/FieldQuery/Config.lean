import FieldQuery.Argument.List

/-!
# Configuration of discovery

How far discovery goes, and what the pseudo-arguments are called.
-/

namespace FieldQuery

structure Config where
  /-- How many object levels below the root are walked. -/
  maxRecursionLevel : Nat
  /-- Lists of objects are walked too; otherwise they yield no arguments. -/
  supportListGraphType : Bool
  orderByArgument : String
  pageArgument : String
  pageSizeArgument : String
  deriving DecidableEq, Repr

namespace Config

def default : Config := ⟨2, false, "OrderBy", "Page", "PageSize"⟩

def names (c : Config) : PseudoNames := ⟨c.orderByArgument, c.pageArgument, c.pageSizeArgument⟩

end Config

end FieldQuery
