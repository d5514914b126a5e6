/-
# TransferLedger.Service.Registration -- registering an account

A request to register an account looks it up and saves a new one if there is none. These are two
calls of the account store, between which others may come.
-/

import TransferLedger.Reconcile.World

namespace TransferLedger

/-- **A registration in progress.** -/
inductive Registration where
  | arrived (address : String)
  /-- There is no account yet. -/
  | missing (address : String)
  /-- There was an account already. -/
  | existing (account : Account)
  /-- A new account has been saved. -/
  | created (account : Account)
  | failed (failure : Failure)
deriving DecidableEq, Repr

namespace Registration

/-- Looking the account up. -/
def lookUp (faults : Faults) (address : String) (w : World) : Registration :=
  match w.getAccount faults address with
  | .error e => failed e
  | .ok (some account) => existing account
  | .ok none => missing address

/-- Saving a new account. -/
def save (faults : Faults) (address : String) (w : World) : Registration × World :=
  let account := Account.register address
  match w.saveAccount faults account with
  | .error e => (failed e, w)
  | .ok w => (created account, w)

/-- **One step of a registration.** -/
def step (faults : Faults) (r : Registration) (w : World) : Registration × World :=
  match r with
  | arrived address => (lookUp faults address w, w)
  | missing address => save faults address w
  | r => (r, w)

/-- A registration from its arrival to its end, without any other call in between. -/
def run (faults : Faults) (address : String) (w : World) : Registration × World :=
  let (r, w) := step faults (.arrived address) w
  step faults r w

end Registration

end TransferLedger
