/-
# TransferLedger.Log.Row -- logs as they are kept

A raw log is what the chain delivers. The row kept for it holds the written words, which are the
topics followed by the data cut into words, and the arguments in encoded form. The first topic is
the signature of the event and no argument, so an argument's slot counts the words after it. A log
without topics has no signature and all its words are arguments.
-/

import TransferLedger.Failure
import TransferLedger.Json.Decode
import TransferLedger.Number.SlotWord
import TransferLedger.Text.Utf8

namespace TransferLedger

open TransferLedger.Text TransferLedger.Number

/-! ## Raw logs -/

/-- **A log as the chain delivers it.** -/
structure RawLog where
  blockNumber : UInt64
  txIndex : UInt64
  logIndex : UInt64
  removed : Bool
  address : String
  topics : List String
  data : String
deriving DecidableEq, Repr

namespace RawLog

open Json.Decoder in
/-- A raw log from a document. -/
def decoder : Json.Decoder RawLog := fun r => do
  let fields ← record
    [field "block_number" word64, field "tx_index" word64, field "log_index" word64,
      field "removed" flag, field "address" text, field "topics" (list text),
      field "data" text] r
  return {
    blockNumber := ← fields.need "block_number" word64
    txIndex := ← fields.need "tx_index" word64
    logIndex := ← fields.need "log_index" word64
    removed := ← fields.orElse "removed" flag false
    address := ← fields.need "address" text
    topics := ← fields.need "topics" (list text)
    data := ← fields.orElse "data" text "" }

end RawLog

/-! ## Rows -/

/-- **A log as it is kept.** -/
structure LogRow where
  blockNumber : UInt64
  txIndex : UInt64
  logIndex : UInt64
  removed : Bool
  signature : String
  address : String
  /-- The topics followed by the data words, as they were written. -/
  values : List String
  /-- Where the data words start, if there are both topics and data. -/
  dataValuesStart : Option UInt64
  args : List SlotWord
deriving DecidableEq, Repr

/-- A word of a log that is no hex scalar, by its position among the words. -/
structure BadWord where
  position : Nat
  word : String
deriving DecidableEq, Repr

/-- The failure of a log with a bad word. -/
def BadWord.failure (e : BadWord) : Failure where
  contexts := ["Invalid word at position " ++ decimalText e.position]
  cause := .filter (.malformedValue "log word" e.word)

/-- Text cut into pieces of `size`, the last of which may be shorter. -/
def chunksUpTo (size : Nat) : (fuel : Nat) → List α → List (List α)
  | 0, _ => []
  | _, [] => []
  | fuel + 1, items => items.take size :: chunksUpTo size fuel (items.drop size)

/-- The characters without the marks `0x` they start with, however many. -/
def dropMarks : List Char → List Char
  | '0' :: 'x' :: rest => dropMarks rest
  | cs => cs

/-- Hex digits in a data word. -/
def wordDigits : Nat := 64

/-- The words of the data of a log: 64 bytes each, after the marks at the front. -/
def dataWords (data : String) : List String :=
  let bytes := Utf8.encode (String.ofList (dropMarks data.toList))
  (chunksUpTo wordDigits bytes.length bytes).map Utf8.decodeLossy

/-- The arguments written by some words, the first of which stands at `position`, where the first
`skip` words of the log are no arguments. -/
def argsOf (skip : Nat) : (position : Nat) → List String → Except BadWord (List SlotWord)
  | _, [] => .ok []
  | position, word :: rest =>
    match Word.ofScalar? word with
    | none => .error ⟨position, word⟩
    | some w => do
      let args ← argsOf skip (position + 1) rest
      return SlotWord.ofWord w (UInt64.ofNat (position - skip)) :: args

namespace LogRow

/-- **The row of a raw log,** unless one of its words is no hex scalar. -/
def ofLog (log : RawLog) : Except BadWord LogRow := do
  let words := dataWords log.data
  let values := log.topics ++ words
  let skip := if log.topics.isEmpty then 0 else 1
  let args ← argsOf skip skip (values.drop skip)
  return {
    blockNumber := log.blockNumber
    txIndex := log.txIndex
    logIndex := log.logIndex
    removed := log.removed
    signature := lower (log.topics.head?.getD "")
    address := lower log.address
    values := values
    dataValuesStart :=
      if log.topics.isEmpty || words.isEmpty then none
      else some (UInt64.ofNat log.topics.length)
    args := args }

/-- The identity of a row: one log for each block, transaction and log number. -/
def id (row : LogRow) : String :=
  decimalText row.blockNumber.toNat ++ "x" ++ decimalText row.txIndex.toNat ++ "x" ++
    decimalText row.logIndex.toNat

/-- The place of a row in the order of the chain. -/
def key (row : LogRow) : Nat × Nat × Nat :=
  (row.blockNumber.toNat, row.txIndex.toNat, row.logIndex.toNat)

end LogRow

/-! ## Documents -/

/-- An encoded word as a document. -/
def SlotWord.toJson (a : SlotWord) : Json :=
  .object [("e", .nat a.exponent.toNat), ("c", .arr (a.limbs.map fun limb => .nat limb.toNat)),
    ("index", .nat a.slot.toNat)]

open Json.Decoder in
/-- An encoded word from a document. -/
def SlotWord.decoder : Json.Decoder SlotWord := fun r => do
  let fields ← record
    [field "e" word32, field "c" (list word64), field "index" word64] r
  return {
    exponent := ← fields.need "e" word32
    limbs := ← fields.need "c" (list word64)
    slot := ← fields.need "index" word64 }

namespace LogRow

/-- A row as a document. -/
def toJson (row : LogRow) : Json :=
  .object [("block_number", .nat row.blockNumber.toNat), ("tx_index", .nat row.txIndex.toNat),
    ("log_index", .nat row.logIndex.toNat), ("removed", .bool row.removed),
    ("signature", .str row.signature), ("address", .str row.address),
    ("values", .texts row.values),
    ("data_values_start", .orNull (fun start => .nat start.toNat) row.dataValuesStart),
    ("args", .arr (row.args.map SlotWord.toJson))]

open Json.Decoder in
/-- A row from a document. -/
def decoder : Json.Decoder LogRow := fun r => do
  let fields ← record
    [field "block_number" word64, field "tx_index" word64, field "log_index" word64,
      field "removed" flag, field "signature" text, field "address" text,
      field "values" (list text), field "data_values_start" (optional word64),
      field "args" (list SlotWord.decoder)] r
  return {
    blockNumber := ← fields.need "block_number" word64
    txIndex := ← fields.need "tx_index" word64
    logIndex := ← fields.need "log_index" word64
    removed := ← fields.need "removed" flag
    signature := ← fields.need "signature" text
    address := ← fields.need "address" text
    values := ← fields.need "values" (list text)
    dataValuesStart := ← fields.optional "data_values_start" (optional word64)
    args := ← fields.need "args" (list SlotWord.decoder) }

end LogRow

end TransferLedger
