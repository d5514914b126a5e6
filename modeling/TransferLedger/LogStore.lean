/-
# TransferLedger.LogStore -- a log store of either kind

Rows are kept in process or in tables. Both take rows in, count them, and list the values of a field
over the rows that a query selects.
-/

import TransferLedger.LogStore.Memory
import TransferLedger.LogStore.Tables

namespace TransferLedger

/-- **A log store.** -/
inductive LogStore where
  | memory (store : OrderedLogs)
  | tables (tables : LogTables)
deriving DecidableEq, Repr

namespace LogStore

/-- The store with some rows put in, later ones over earlier ones. -/
def insert : LogStore → List LogRow → LogStore
  | memory s, rows => memory (s.insert rows)
  | tables t, rows => tables (t.insert rows)

/-- The values of a field over the rows that a query selects. -/
def distinct : LogStore → RowField → LogQuery → List String
  | memory s, field, q => s.distinct field q
  | tables t, field, q => t.distinct field q

/-- How many rows there are. -/
def count : LogStore → Nat
  | memory s => s.count
  | tables t => t.count

end LogStore

end TransferLedger
