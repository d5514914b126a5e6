/-
# TransferLedger.Filter.Meaning -- what a filter says about a log

A filter speaks of the arguments of an event by name. This module says what it means on a raw log,
without slots, encodings or rows: the arguments take the words of the log in the order of their
declaration, values are compared as numbers, and the tree is boolean.
-/

import TransferLedger.Event.Schema
import TransferLedger.Filter.Basic
import TransferLedger.Log.Row

namespace TransferLedger

open TransferLedger.Text

/-! ## Logs of an event -/

/-- **What a log of an event tells:** the word of each argument that it carries, by name, and the
contract that emitted it. -/
structure EventView where
  word? : String → Option Word
  emitter : String

/-- The bytes of the data of a log, after the marks at the front. -/
def RawLog.dataBytes (log : RawLog) : List UInt8 :=
  Utf8.encode (String.ofList (dropMarks log.data.toList))

namespace EventSchema

/-- **The words that arguments take,** in the order of their declaration: an indexed argument the
next topic, any other the next word of the data. Where these have run out there is none. -/
def assign : List DeclaredArgument → (topics : List String) → (data : List UInt8) →
    List (String × Option String)
  | [], _, _ => []
  | a :: rest, topics, data =>
    if a.indexed then (a.name, topics.head?) :: assign rest topics.tail data
    else
      let word := if data.isEmpty then none else some (Utf8.decodeLossy (data.take wordDigits))
      (a.name, word) :: assign rest topics (data.drop wordDigits)

/-- What a log tells as one of this event. Its first topic is the signature. A name that is declared
twice stands for its first argument. -/
def view (s : EventSchema) (log : RawLog) : EventView where
  word? name := ((assign s.arguments log.topics.tail log.dataBytes).lookup name).join.bind
    Word.ofScalar?
  emitter := log.address

/-- Whether the first topic of a log is the signature of this event, in any letter case. -/
def signs (s : EventSchema) (log : RawLog) : Bool := log.topics.head?.any s.isSignedBy

end EventSchema

/-! ## Filters -/

namespace Condition

/-- Whether a word is the number that a hex value denotes. No value equals a word that is missing. -/
def isWord (found : Option Word) (value : String) : Bool :=
  found.any fun w => Word.ofScalar? value == some w

/-- Whether the word of an argument, if there is one, compares as asked. -/
def meets (found : Option Word) : Condition → Bool
  | .equals value => isWord found value
  | .differs value => !isWord found value
  | .oneOf values => values.any (isWord found)
  | .noneOf values => values.all fun value => !isWord found value

end Condition

namespace LogFilter

mutual

/-- **Whether a log passes a filter.** -/
def accepts (view : EventView) : LogFilter → Bool
  | .arg name asked => asked.meets (view.word? name)
  | .all parts => acceptsAll view parts
  | .any parts => acceptsAny view parts
  | .not inner => !accepts view inner
  | .address value => sameIgnoringCase view.emitter value
termination_by structural filter => filter

/-- Whether a log passes all of some filters. -/
def acceptsAll (view : EventView) : List LogFilter → Bool
  | [] => true
  | filter :: rest => accepts view filter && acceptsAll view rest
termination_by structural filters => filters

/-- Whether a log passes one of some filters. -/
def acceptsAny (view : EventView) : List LogFilter → Bool
  | [] => false
  | filter :: rest => accepts view filter || acceptsAny view rest
termination_by structural filters => filters

end

end LogFilter

end TransferLedger
