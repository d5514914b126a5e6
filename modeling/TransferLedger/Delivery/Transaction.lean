/-
# TransferLedger.Delivery.Transaction -- the transaction in a message

A message may carry a whole transaction: its hash, its logs, and any other fields, which are passed
on as they came. The logs tell which tokens the transaction moved.
-/

import TransferLedger.Event.Schema
import TransferLedger.LogStore.Memory

namespace TransferLedger

open TransferLedger.Text

/-- One log of a transaction. -/
structure TransactionLog where
  address : String
  topics : List String
  data : String
  signature : Option String
deriving DecidableEq, Repr

namespace TransactionLog

/-- The signature that is told, or else the first topic. -/
def eventSignature (log : TransactionLog) : Option String :=
  log.signature <|> log.topics.head?

/-- Whether the log is a token transfer. -/
def isTransfer (log : TransactionLog) : Bool :=
  log.eventSignature.any (sameIgnoringCase · EventSchema.transferTopic)

/-- A log as a document. A signature that was not told is left out. -/
def toJson (log : TransactionLog) : Json :=
  .object ([("address", .str log.address), ("topics", .texts log.topics),
      ("data", .str log.data)] ++
    (log.signature.map fun s => ("signature", Json.str s)).toList)

open Json.Decoder in
/-- A log from a document. -/
def decoder : Json.Decoder TransactionLog := fun r => do
  let fields ← record
    [field "address" text, field "topics" (list text), field "data" text,
      field "signature" (optional text)] r
  return {
    address := ← fields.need "address" text
    topics := ← fields.orElse "topics" (list text) []
    data := ← fields.orElse "data" text ""
    signature := ← fields.orElse "signature" (optional text) none }

end TransactionLog

/-- **A transaction,** with the fields that this library does not read. -/
structure Transaction where
  hash : String
  logs : List TransactionLog
  extra : List (String × Json)
deriving DecidableEq, Repr

namespace Transaction

/-- The contracts of the token transfers of a transaction in order, each spelling once. -/
def tokens (t : Transaction) : List String :=
  distinctValues ((t.logs.filter (·.isTransfer)).map (·.address))

/-- A transaction as a document. -/
def toJson (t : Transaction) : Json :=
  .object (t.extra ++ [("hash", .str t.hash), ("logs", .arr (t.logs.map TransactionLog.toJson))])

/-- A transaction from a document, which has to be an object. -/
def ofJson? (j : Json) : Option Transaction :=
  match j with
  | .obj fields => do
    let hash ← (fields.lookup "hash").bind (·.text?)
    let logs ←
      match fields.lookup "logs" with
      | none => some []
      | some logs => Json.Decoder.ofJson? (Json.Decoder.list TransactionLog.decoder) logs
    return ⟨hash, logs, fields.filter fun (key, _) => key != "hash" && key != "logs"⟩
  | _ => none

end Transaction

end TransferLedger
