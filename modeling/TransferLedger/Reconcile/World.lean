/-
# TransferLedger.Reconcile.World -- the stores and the bus

All deliveries and requests share a log store, an account store and a bus. Any call of these may
fail; which ones do is given by a table of faults. A call that fails changes nothing.
-/

import TransferLedger.Account.Store
import TransferLedger.LogStore
import TransferLedger.Reconcile.Bus
import TransferLedger.Reconcile.Update

namespace TransferLedger

/-- **The shared state.** -/
structure World where
  logs : LogStore
  accounts : AccountStore
  bus : Bus RoutedUpdate
deriving DecidableEq, Repr

/-- The calls that fail, and how. -/
structure Faults where
  getAccount : Option Failure
  saveAccount : Option Failure
  insertLogs : Option Failure
  distinctLogs : Option Failure
  countLogs : Option Failure
  publish : Option Failure
deriving DecidableEq, Repr

/-- No call fails. -/
def Faults.none : Faults := ⟨.none, .none, .none, .none, .none, .none⟩

/-- A result unless its call fails. -/
def unlessFaulty (fault : Option Failure) (r : Except Failure α) : Except Failure α :=
  match fault with
  | some e => .error e
  | none => r

theorem unlessFaulty_eq_ok {fault : Option Failure} {r : Except Failure α} {a : α} :
    unlessFaulty fault r = .ok a ↔ fault = none ∧ r = .ok a := by
  cases fault <;> simp [unlessFaulty]

namespace World

/-- The account of an address. -/
def getAccount (w : World) (faults : Faults) (address : String) :
    Except Failure (Option Account) :=
  unlessFaulty faults.getAccount (w.accounts.get? address)

/-- The world with an account saved. -/
def saveAccount (w : World) (faults : Faults) (account : Account) : Except Failure World :=
  unlessFaulty faults.saveAccount (.ok { w with accounts := w.accounts.save account })

/-- The world with some rows put in. -/
def insertLogs (w : World) (faults : Faults) (rows : List LogRow) : Except Failure World :=
  unlessFaulty faults.insertLogs (.ok { w with logs := w.logs.insert rows })

/-- The values of a field over the rows that a query selects. -/
def distinctLogs (w : World) (faults : Faults) (field : RowField) (q : LogQuery) :
    Except Failure (List String) :=
  unlessFaulty faults.distinctLogs (.ok (w.logs.distinct field q))

/-- How many rows there are. -/
def countLogs (w : World) (faults : Faults) : Except Failure Nat :=
  unlessFaulty faults.countLogs (.ok w.logs.count)

/-- The world with an update broadcast. -/
def publish (w : World) (faults : Faults) (p : RoutedUpdate) : Except Failure World :=
  unlessFaulty faults.publish (.ok { w with bus := w.bus.publish p })

end World

end TransferLedger
