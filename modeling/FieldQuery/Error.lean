/-!
# Errors

What can go wrong in composing and evaluating a query, with the message for each cause, and the log
of the errors of one request.
-/

namespace FieldQuery

inductive QueryError where
  | emptyOrderBy (argument : String)
  | invalidOrderBy (argument : String)
  | danglingDirection (argument token : String)
  | unknownOrderByField (argument field : String)
  | collectionOrderByField (argument field : String)
  | incompletePaging (missing present : String)
  | invalidPagingValue (argument value : String)
  | pagingOverflow (page pageSize : String)
  | unsupportedValue (argument reason : String)
  | nullReference (path : String)
  | notACollection (path : String)
  | unboundParameter (index : Nat)
  | projection (reason : String)
  | emptyEntityPath (path : String)
  deriving DecidableEq, Repr

namespace QueryError

def message : QueryError → String
  | .emptyOrderBy argument => s!"The \"{argument}\" field is empty."
  | .invalidOrderBy argument => s!"The \"{argument}\" field must be a string."
  | .danglingDirection argument token =>
    s!"The \"{argument}\" field with value \"{token}\" cannot be used without a query field."
  | .unknownOrderByField argument field =>
    s!"The \"{argument}\" field uses an unknown field \"{field}\"."
  | .collectionOrderByField argument field =>
    s!"The \"{argument}\" field uses the collection field \"{field}\", which cannot be sorted."
  | .incompletePaging missing present =>
    s!"The \"{missing}\" field is required when \"{present}\" is supplied."
  | .invalidPagingValue argument value =>
    s!"The \"{argument}\" field must be a non-negative integer, got \"{value}\"."
  | .pagingOverflow page pageSize =>
    s!"The \"{page}\" and \"{pageSize}\" fields overflow the skip count."
  | .unsupportedValue argument reason =>
    s!"The \"{argument}\" argument has an unsupported value: {reason}."
  | .nullReference path => s!"Null reference while evaluating \"{path}\"."
  | .notACollection path => s!"Expected a collection at \"{path}\"."
  | .unboundParameter index => s!"Parameter @{index} is not bound."
  | .projection reason => s!"Failed to project entity for evaluation: {reason}"
  | .emptyEntityPath path => s!"The filter argument \"{path}\" requires a non-empty entity path."

end QueryError

/-- The errors of one request, in the order they were met. -/
structure ErrorLog where
  errors : List QueryError
  deriving DecidableEq, Repr

namespace ErrorLog

def empty : ErrorLog := ⟨[]⟩

def push (log : ErrorLog) (e : QueryError) : ErrorLog := ⟨log.errors ++ [e]⟩

def size (log : ErrorLog) : Nat := log.errors.length

def isEmpty (log : ErrorLog) : Bool := log.errors.isEmpty

def messages (log : ErrorLog) : List String := log.errors.map QueryError.message

end ErrorLog

end FieldQuery
