/-
# TransferLedger.LogStore.Memory -- rows kept in process

The rows are kept in the order of the chain, one for each block, transaction and log number. A row
that is put in replaces the one in its place.
-/

import TransferLedger.Query.Predicate

namespace TransferLedger

/-- The lexicographic order of places in the chain. -/
def keyBefore (a b : Nat × Nat × Nat) : Bool :=
  a.1 < b.1 || (a.1 == b.1 && (a.2.1 < b.2.1 || (a.2.1 == b.2.1 && a.2.2 < b.2.2)))

/-- The values in order of their first occurrence, each once. -/
def distinctValues [BEq α] (values : List α) : List α :=
  values.foldl (fun seen v => if seen.contains v then seen else seen ++ [v]) []

/-- **A log store in process:** its rows in the order of the chain. -/
structure OrderedLogs where
  rows : List LogRow
deriving DecidableEq, Repr

namespace OrderedLogs

/-- The store without rows. -/
def empty : OrderedLogs := ⟨[]⟩

/-- The rows with one put at its place. -/
def put (row : LogRow) : List LogRow → List LogRow
  | [] => [row]
  | r :: rest =>
    if keyBefore row.key r.key then row :: r :: rest
    else if row.key = r.key then row :: rest
    else r :: put row rest

/-- The store with some rows put in, later ones over earlier ones. -/
def insert (store : OrderedLogs) (rows : List LogRow) : OrderedLogs :=
  ⟨rows.foldl (fun kept row => put row kept) store.rows⟩

/-- The rows that a query selects. -/
def find (store : OrderedLogs) (q : LogQuery) : List LogRow := store.rows.filter q.selects

/-- The values of a field over the rows that a query selects. -/
def distinct (store : OrderedLogs) (field : RowField) (q : LogQuery) : List String :=
  distinctValues ((store.find q).map field.read)

/-- How many rows there are. -/
def count (store : OrderedLogs) : Nat := store.rows.length

end OrderedLogs

end TransferLedger
