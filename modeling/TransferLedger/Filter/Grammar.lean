/-
# TransferLedger.Filter.Grammar -- which documents are filters and what they say

The grammar of filter documents as a judgment, without a reader: a document is an object, and each of
its keys is a connective over documents, the emitting contract, or an argument with a value or an
object of comparisons. Beside it stands what a document says about a log, which is again said of the
document alone: all of its keys have to hold, and all comparisons under one of them.
-/

import TransferLedger.Filter.Meaning
import TransferLedger.Json.Basic

namespace TransferLedger.FilterDocument

open TransferLedger.Text

/-! ## Grammar -/

/-- Whether a key names an argument: it is not the emitting contract and no operator. -/
def NamesArgument (key : String) : Prop := key ≠ "address" ∧ key.toList.head? ≠ some '$'

/-- **A comparison of an argument:** an operator over one value or over a list of values. -/
inductive IsComparison : String × Json → Prop
  | single {operator : String} (known : operator = "$eq" ∨ operator = "$ne") (value : String) :
      IsComparison (operator, .str value)
  | several {operator : String} (known : operator = "$in" ∨ operator = "$nin")
      (values : List String) : IsComparison (operator, .texts values)

mutual

/-- **A filter document:** an object whose every key is one of a filter. -/
inductive IsDocument : Json → Prop
  | object {fields : List (String × Json)} (each : ∀ field ∈ fields, IsField field) :
      IsDocument (.obj fields)

/-- **A key of a filter document** with its value. -/
inductive IsField : String × Json → Prop
  | connective {key : String} (known : key = "$or" ∨ key = "$and" ∨ key = "$nor")
      {items : List Json} (each : ∀ item ∈ items, IsDocument item) : IsField (key, .arr items)
  | negation {inner : Json} (within : IsDocument inner) : IsField ("$not", inner)
  | emitter (address : String) : IsField ("address", .str address)
  | value {name : String} (plain : NamesArgument name) (value : String) : IsField (name, .str value)
  | comparisons {name : String} (plain : NamesArgument name) {operators : List (String × Json)}
      (filled : operators ≠ []) (each : ∀ operator ∈ operators, IsComparison operator) :
      IsField (name, .obj operators)

end

/-! ## Meaning -/

/-- Whether a word is the number that a value denotes. -/
def isValue (found : Option Word) : Json → Bool
  | .str value => Condition.isWord found value
  | _ => false

/-- Whether the word of an argument compares as an operator asks. -/
def compares (found : Option Word) : String × Json → Bool
  | (operator, .str value) =>
    if operator = "$eq" then Condition.isWord found value
    else if operator = "$ne" then !Condition.isWord found value
    else false
  | (operator, .arr values) =>
    if operator = "$in" then values.any (isValue found)
    else if operator = "$nin" then values.all (!isValue found ·)
    else false
  | _ => false

/-- Whether the word of an argument is as a document asks: the given number, or compared as all of
the operators ask. -/
def argumentHolds (found : Option Word) : Json → Bool
  | .obj operators => operators.all (compares found)
  | value => isValue found value

/-- Whether a document names the emitting contract of a log. -/
def isEmitter (view : EventView) : Json → Bool
  | .str address => sameIgnoringCase view.emitter address
  | _ => false

mutual

/-- **Whether a log is as a document says:** it is so under every key. -/
def holds (view : EventView) : Json → Bool
  | .obj fields => fieldsHold view fields
  | _ => false
termination_by structural d => d

/-- Whether a log is as all of some keys say. -/
def fieldsHold (view : EventView) : List (String × Json) → Bool
  | [] => true
  | field :: rest => fieldHolds view field && fieldsHold view rest
termination_by structural fields => fields

/-- Whether a log is as one key says. -/
def fieldHolds (view : EventView) : String × Json → Bool
  | (key, value) =>
    if key = "$or" then (answers view value).any id
    else if key = "$and" then (answers view value).all id
    else if key = "$nor" then !(answers view value).any id
    else if key = "$not" then !holds view value
    else if key = "address" then isEmitter view value
    else argumentHolds (view.word? key) value
termination_by structural field => field

/-- Which documents of a list a log is as. -/
def answers (view : EventView) : Json → List Bool
  | .arr items => answersOf view items
  | _ => []
termination_by structural list => list

/-- Which of some documents a log is as. -/
def answersOf (view : EventView) : List Json → List Bool
  | [] => []
  | item :: rest => holds view item :: answersOf view rest
termination_by structural items => items

end

end TransferLedger.FilterDocument
