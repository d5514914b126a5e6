/-
# TransferLedger.Event.Schema -- the arguments of an event and their slots

An event declares its arguments in order, some of them indexed. A log carries the indexed ones as
topics and the others as data words, so a row lays out the indexed arguments first and the data
arguments after them, each group in declared order. The *slot* of an argument is its place in that
layout. Where a name is declared twice its slot is that of the first declaration.
-/

import TransferLedger.Json.Decode
import TransferLedger.Text.Ascii

namespace TransferLedger

open TransferLedger.Text

/-- One declared argument. -/
structure DeclaredArgument where
  name : String
  /-- Carried as a topic rather than as a data word. -/
  indexed : Bool
deriving DecidableEq, Repr

/-- **A declared event.** Its signature is kept in lower case. -/
structure EventSchema where
  name : String
  signature : String
  arguments : List DeclaredArgument
  lower_signature : lower signature = signature

namespace EventSchema

/-- An event with a signature of any letter case. -/
def declare (name signature : String) (arguments : List DeclaredArgument) : EventSchema :=
  ⟨name, lower signature, arguments, lower_lower signature⟩

/-! ## Slots -/

/-- How many arguments are indexed. -/
def indexedArity (s : EventSchema) : Nat := s.arguments.countP (·.indexed)

/-- How many arguments are carried as data words. -/
def dataArity (s : EventSchema) : Nat := s.arguments.countP (!·.indexed)

/-- The arguments in the order of their slots. -/
def layout (s : EventSchema) : List DeclaredArgument :=
  s.arguments.filter (·.indexed) ++ s.arguments.filter (!·.indexed)

/-- The first declaration of a name. -/
def argument? (s : EventSchema) (name : String) : Option DeclaredArgument :=
  s.arguments.find? (·.name == name)

/-- **The slot of a name:** as many arguments of its group stand before its first declaration, and
the data arguments come after all indexed ones. -/
def slotOf? (s : EventSchema) (name : String) : Option Nat := do
  let place ← s.arguments.findIdx? (·.name == name)
  let argument ← s.arguments[place]?
  let before := s.arguments.take place
  return if argument.indexed then before.countP (·.indexed)
    else s.indexedArity + before.countP (!·.indexed)

/-- The name of the argument at a slot. -/
def nameAt? (s : EventSchema) (slot : Nat) : Option String := (s.layout[slot]?).map (·.name)

/-- Whether a text is the signature of the event, in any letter case. -/
def isSignedBy (s : EventSchema) (signature : String) : Bool :=
  sameIgnoringCase signature s.signature

/-! ## Transfers -/

/-- The signature of the token event `Transfer(address,address,uint256)`. -/
def transferTopic : String :=
  "0xddf252ad1be2c89b69c2b068fc378daa952ba7f163c4a11628f55a4df523b3ef"

/-- The token event `Transfer`: who sent, who received, and how much. -/
def transfer : EventSchema :=
  declare "Transfer" transferTopic [⟨"from", true⟩, ⟨"to", true⟩, ⟨"value", false⟩]

end EventSchema

/-! ## Documents -/

namespace DeclaredArgument

/-- An argument as a document. -/
def toJson (a : DeclaredArgument) : Json :=
  .object [("name", .str a.name), ("indexed", .bool a.indexed)]

open Json.Decoder in
/-- An argument from a document. -/
def decoder : Json.Decoder DeclaredArgument := fun r => do
  let fields ← record [field "name" text, field "indexed" flag] r
  return { name := ← fields.need "name" text, indexed := ← fields.need "indexed" flag }

end DeclaredArgument

end TransferLedger
