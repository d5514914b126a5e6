/-
# TransferLedger.Filter.Reduction -- what a filter comes to before any log is seen

Two things about a filter are settled by the event alone. One is its first fault: a comparison may
name an argument that the event lacks, or hold a value that is no hex scalar. The other is whether
the filter is a constant. A comparison with an empty list is one, and the connectives carry constants
upwards where the other parts cannot change the result; a leaf of any other kind is unknown.
-/

import TransferLedger.Event.Schema
import TransferLedger.Filter.Basic
import TransferLedger.Filter.Failure
import TransferLedger.Number.Word

namespace TransferLedger

/-! ## Faults -/

/-- The values that an argument is compared with, as they are written. -/
def Condition.values : Condition → List String
  | .equals value => [value]
  | .differs value => [value]
  | .oneOf values => values
  | .noneOf values => values

namespace EventSchema

/-- Whether an event declares an argument of a name. -/
def declares (s : EventSchema) (name : String) : Bool := s.arguments.any (·.name == name)

/-- The fault of a comparison, if it has one. A wrong name counts before any wrong value, and of the
values the first wrong one. -/
def fault? (s : EventSchema) : String × Condition → Option FilterFailure
  | (name, asked) =>
    if s.declares name then
      (asked.values.find? fun value => (Word.ofScalar? value).isNone).map (.malformedValue name)
    else some (.unknownArgument name)

end EventSchema

namespace LogFilter

mutual

/-- The comparisons of a filter with the names of their arguments, from left to right and wherever
they stand. -/
def leaves : LogFilter → List (String × Condition)
  | .arg name asked => [(name, asked)]
  | .all parts => leavesOf parts
  | .any parts => leavesOf parts
  | .not inner => leaves inner
  | .address _ => []
termination_by structural filter => filter

/-- The comparisons of some filters. -/
def leavesOf : List LogFilter → List (String × Condition)
  | [] => []
  | filter :: rest => leaves filter ++ leavesOf rest
termination_by structural filters => filters

end

/-- **The first fault of a filter,** from left to right. -/
def fault? (s : EventSchema) (filter : LogFilter) : Option FilterFailure :=
  filter.leaves.findSome? s.fault?

end LogFilter

/-! ## Constants -/

namespace ThreeValued

/-- The negation of an answer that may be unknown. -/
def not (a : Option Bool) : Option Bool := a.map (!·)

/-- The conjunction of two answers: one that is false decides it, whatever the other is. -/
def and : Option Bool → Option Bool → Option Bool
  | some false, _ => some false
  | _, some false => some false
  | some true, some true => some true
  | _, _ => none

/-- The disjunction of two answers: one that is true decides it, whatever the other is. -/
def or : Option Bool → Option Bool → Option Bool
  | some true, _ => some true
  | _, some true => some true
  | some false, some false => some false
  | _, _ => none

end ThreeValued

/-- What a comparison comes to: none of no values is met and all of no values are avoided. -/
def Condition.fold : Condition → Option Bool
  | .oneOf [] => some false
  | .noneOf [] => some true
  | _ => none

namespace LogFilter

mutual

/-- **What a filter comes to,** where every comparison with a value and every address is unknown. -/
def fold : LogFilter → Option Bool
  | .arg _ asked => asked.fold
  | .all parts => foldAll parts
  | .any parts => foldAny parts
  | .not inner => ThreeValued.not (fold inner)
  | .address _ => none
termination_by structural filter => filter

/-- What the conjunction of some filters comes to. -/
def foldAll : List LogFilter → Option Bool
  | [] => some true
  | filter :: rest => ThreeValued.and (fold filter) (foldAll rest)
termination_by structural filters => filters

/-- What the disjunction of some filters comes to. -/
def foldAny : List LogFilter → Option Bool
  | [] => some false
  | filter :: rest => ThreeValued.or (fold filter) (foldAny rest)
termination_by structural filters => filters

end

end LogFilter

end TransferLedger
