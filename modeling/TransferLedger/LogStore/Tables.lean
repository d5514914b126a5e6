/-
# TransferLedger.LogStore.Tables -- rows kept in two tables

The table of logs holds one line for each row under the text of its identity; lists are kept as
document text. The table of arguments holds one line for each encoded argument, and queries look
there and not at the text. Numbers are kept as signed words of 64 bits, so the order of the lines is
that of the signed values, while reading a line back gives the number that was stored.
-/

import TransferLedger.Json.Printer
import TransferLedger.LogStore.Memory

namespace TransferLedger

open TransferLedger.Text TransferLedger.Number

/-! ## Lines -/

/-- A line of the table of logs. -/
structure LogLine where
  id : String
  blockNumber : Int64
  txIndex : Int64
  logIndex : Int64
  removed : Bool
  signature : String
  address : String
  values : String
  dataValuesStart : Option Int64
  args : String
deriving DecidableEq, Repr

/-- A line of the table of arguments. -/
structure ArgLine where
  logId : String
  exponent : Int64
  limbs : String
  slot : Int64
deriving DecidableEq, Repr

/-- The limbs of an argument as the text of a list. -/
def limbsText (limbs : List UInt64) : String :=
  "[" ++ ",".intercalate (limbs.map fun limb => decimalText limb.toNat) ++ "]"

/-- An exponent as a signed word. -/
def exponentColumn (e : UInt32) : Int64 := Int64.ofNat e.toNat

/-- The line of one argument of a row. -/
def ArgLine.ofArg (logId : String) (a : SlotWord) : ArgLine :=
  ⟨logId, exponentColumn a.exponent, limbsText a.limbs, a.slot.toInt64⟩

/-- A column of a line whose text is no list of the right kind. -/
inductive BadColumn where
  | values
  | args
deriving DecidableEq, Repr

/-- The failure of a row with a bad column. -/
def BadColumn.failure : BadColumn → Failure
  | values => ⟨["Invalid log_values column"], .json⟩
  | args => ⟨["Invalid args column"], .json⟩

namespace LogLine

/-- The line of a row. -/
def ofRow (row : LogRow) : LogLine where
  id := row.id
  blockNumber := row.blockNumber.toInt64
  txIndex := row.txIndex.toInt64
  logIndex := row.logIndex.toInt64
  removed := row.removed
  signature := lower row.signature
  address := lower row.address
  values := (Json.texts row.values).render
  dataValuesStart := row.dataValuesStart.map (·.toInt64)
  args := (Json.arr (row.args.map SlotWord.toJson)).render

/-- The row of a line. The list of words is read before the list of arguments. -/
def toRow (line : LogLine) : Except BadColumn LogRow :=
  match Json.Decoder.ofText? (Json.Decoder.list Json.Decoder.text) (Utf8.encode line.values) with
  | none => .error .values
  | some values =>
    match Json.Decoder.ofText? (Json.Decoder.list SlotWord.decoder) (Utf8.encode line.args) with
    | none => .error .args
    | some args => .ok {
        blockNumber := line.blockNumber.toUInt64
        txIndex := line.txIndex.toUInt64
        logIndex := line.logIndex.toUInt64
        removed := line.removed
        signature := line.signature
        address := line.address
        values := values
        dataValuesStart := line.dataValuesStart.map (·.toUInt64)
        args := args }

/-- The value of a field. -/
def read : RowField → LogLine → String
  | .address, line => line.address
  | .signature, line => line.signature

/-- Whether a line stands at or before another by block, transaction and log number. -/
def notAfter (a b : LogLine) : Bool :=
  a.blockNumber < b.blockNumber || (a.blockNumber == b.blockNumber &&
    (a.txIndex < b.txIndex || (a.txIndex == b.txIndex && a.logIndex ≤ b.logIndex)))

end LogLine

/-! ## Tables -/

/-- The failure of tables that cannot be opened. -/
def unopenedLogs (path : String) : Failure :=
  ⟨["Failed to open log database at " ++ path], .database⟩

/-- **A log store in two tables.** -/
structure LogTables where
  logs : List LogLine
  args : List ArgLine
deriving DecidableEq, Repr

namespace LogTables

/-- The tables without lines. -/
def empty : LogTables := ⟨[], []⟩

/-- The tables with one row put in: its own lines take the place of all lines of its identity. -/
def put (tables : LogTables) (row : LogRow) : LogTables :=
  let id := row.id
  ⟨tables.logs.filter (·.id != id) ++ [LogLine.ofRow row],
    tables.args.filter (·.logId != id) ++ row.args.map (ArgLine.ofArg id)⟩

/-- The tables with some rows put in, later ones over earlier ones. -/
def insert (tables : LogTables) (rows : List LogRow) : LogTables := rows.foldl put tables

/-- How many rows there are. -/
def count (tables : LogTables) : Nat := tables.logs.length

/-- The row under an identity. -/
def get? (tables : LogTables) (id : String) : Except BadColumn (Option LogRow) :=
  match tables.logs.find? (·.id == id) with
  | none => .ok none
  | some line => line.toRow.map some

/-! ## Queries -/

/-- Whether a line of the table of arguments is what is searched for. -/
def lineAccepts (m : ArgMatch) (line : ArgLine) : Bool :=
  m.exponent.test line.exponent (exponentColumn m.arg.exponent) &&
    m.limbs.test line.limbs (limbsText m.arg.limbs) &&
    m.slot.test line.slot m.arg.slot.toInt64

mutual

/-- **Whether a line of the table of logs meets a predicate:** a search looks for a line of the
table of arguments under the same identity, and fields are kept in lower case. -/
def holds (tables : LogTables) (line : LogLine) : Predicate → Bool
  | .all parts => allHold tables line parts
  | .any parts => anyHolds tables line parts
  | .not inner => !holds tables line inner
  | .arg search => ((tables.args.filter (lineAccepts search)).map (·.logId)).contains line.id
  | .field f value => line.read f == lower value
termination_by structural p => p

/-- Whether a line meets all of some predicates. -/
def allHold (tables : LogTables) (line : LogLine) : List Predicate → Bool
  | [] => true
  | p :: rest => holds tables line p && allHold tables line rest
termination_by structural ps => ps

/-- Whether a line meets one of some predicates. -/
def anyHolds (tables : LogTables) (line : LogLine) : List Predicate → Bool
  | [] => false
  | p :: rest => holds tables line p || anyHolds tables line rest
termination_by structural ps => ps

end

/-- The lines that a query selects, in their order. -/
def select (tables : LogTables) (q : LogQuery) : List LogLine :=
  (tables.logs.filter fun line =>
    line.signature == lower q.signature && tables.holds line q.predicate).mergeSort LogLine.notAfter

/-- The values of a field over the rows that a query selects. -/
def distinct (tables : LogTables) (field : RowField) (q : LogQuery) : List String :=
  distinctValues ((tables.select q).map (LogLine.read field))

/-! ## Damage -/

/-- The tables with the text of one column of a row overwritten, and how many rows had it. -/
def overwrite (tables : LogTables) (id : String) (column : BadColumn) (text : String) :
    LogTables × Nat :=
  let change (line : LogLine) : LogLine :=
    if line.id = id then
      match column with
      | .values => { line with values := text }
      | .args => { line with args := text }
    else line
  ({ tables with logs := tables.logs.map change }, tables.logs.countP (·.id == id))

end LogTables

end TransferLedger
