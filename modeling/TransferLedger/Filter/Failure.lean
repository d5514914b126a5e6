/-
# TransferLedger.Filter.Failure -- why a filter selects nothing

A filter fails in four ways: it names an argument that the event lacks, it compares with a value
that is no hex scalar, its document is malformed, or it reduces to a condition that no log meets.
-/

namespace TransferLedger

/-- What is wrong with a filter document. -/
inductive DocumentFault where
  /-- A filter is not an object. -/
  | notAnObject
  /-- A boolean operator is not given a list. -/
  | listExpected (operator : String)
  /-- An unknown operator in place of a name. -/
  | unknownOperator (operator : String)
  /-- An unknown operator on an argument. -/
  | unknownComparison (operator name : String)
  /-- A membership test is not given a list. -/
  | valuesExpected (name : String)
  /-- An argument with an empty object of operators. -/
  | noCondition (name : String)
deriving DecidableEq, Repr

/-- The wording of a fault. -/
def DocumentFault.message : DocumentFault → String
  | notAnObject => "filter must be an object"
  | listExpected operator => "'" ++ operator ++ "' expects an array"
  | unknownOperator operator => "unsupported operator '" ++ operator ++ "'"
  | unknownComparison operator name =>
    "unsupported operator '" ++ operator ++ "' on '" ++ name ++ "'"
  | valuesExpected name => "'" ++ name ++ "' expects an array of values"
  | noCondition name => "no condition for '" ++ name ++ "'"

/-- **Why a filter selects nothing.** -/
inductive FilterFailure where
  | unknownArgument (name : String)
  | malformedValue (argument value : String)
  | malformedDocument (fault : DocumentFault)
  | matchesNothing
deriving DecidableEq, Repr

/-- The wording of a failure. -/
def FilterFailure.message : FilterFailure → String
  | unknownArgument name => "Unknown event argument '" ++ name ++ "'"
  | malformedValue argument value =>
    "Value '" ++ value ++ "' for argument '" ++ argument ++ "' is not a hex scalar"
  | malformedDocument fault => "Malformed filter: " ++ fault.message
  | matchesNothing => "Filter matches no row"

end TransferLedger
