/-
# TransferLedger.Filter.Basic -- what callers ask of the logs of an event

A filter is a boolean tree. Its leaves compare a named argument with hex values, or name the
contract that emitted the log. Filters know nothing of slots or encodings: a name may turn out to be
undeclared and a value may turn out to be no hex scalar, which is decided where the filter is
compiled.
-/

import TransferLedger.Json.Printer

namespace TransferLedger

/-- The comparison asked of one argument. -/
inductive Condition where
  | equals (value : String)
  | differs (value : String)
  | oneOf (values : List String)
  | noneOf (values : List String)
deriving DecidableEq, Repr

/-- **A filter over the logs of one event.** -/
inductive LogFilter where
  | arg (name : String) (condition : Condition)
  | all (parts : List LogFilter)
  | any (parts : List LogFilter)
  | not (inner : LogFilter)
  /-- The emitting contract. -/
  | address (value : String)
deriving Repr

namespace LogFilter

/-- The filter that every log passes. -/
def everything : LogFilter := .all []

/-- The transfers from or to an account. -/
def touching (account : String) : LogFilter :=
  .any [.arg "to" (.equals account), .arg "from" (.equals account)]

/-- The conjunction of some filters, where a single one stands for itself. -/
def conjunction : List LogFilter → LogFilter
  | [only] => only
  | parts => .all parts

end LogFilter

end TransferLedger
