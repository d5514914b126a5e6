/-
# TransferLedger.Reconcile.Handling -- handling one delivery

Handling a delivery takes four steps: the account is looked up, its balances are read from the
chain, the refreshed account is saved, and the balances are published. Each step makes at most one
request to the shared stores and the bus, so several deliveries in progress are interleavings of
their steps. An account that is not registered ends the handling without a change.
-/

import TransferLedger.Delivery.Notification
import TransferLedger.Reconcile.Refresh

namespace TransferLedger

/-- **What all deliveries have in common:** the names of messages, the compiler of token queries,
the chain, the calls that fail, and the time. -/
structure Reconciler where
  routing : Routing
  compiler : FilterCompiler
  chain : Chain
  faults : Faults
  now : Int64

/-- What came of a delivery. -/
inductive Outcome where
  | updated (update : BalanceUpdate)
  /-- No account of the address is registered. -/
  | skipped (address : String)
deriving DecidableEq, Repr

/-- **A delivery in progress.** -/
inductive Handling where
  | arrived (d : Delivery)
  /-- The account has been looked up. -/
  | found (n : Notification) (account : Account)
  /-- The balances have been read. -/
  | refreshed (n : Notification) (account : Account)
  /-- The account has been saved. -/
  | saved (n : Notification) (account : Account)
  | done (result : Except Failure Outcome)
deriving DecidableEq

namespace Reconciler

/-- Looking up the account that a delivery names. -/
def lookUp (r : Reconciler) (d : Delivery) (w : World) : Handling :=
  match Notification.ofDelivery r.routing d with
  | .error e => .done (.error e)
  | .ok n =>
    match w.getAccount r.faults n.address with
    | .error e => .done (.error e)
    | .ok none => .done (.ok (.skipped n.address))
    | .ok (some account) => .found n account

/-- Reading the balances of an account. -/
def refresh (r : Reconciler) (n : Notification) (account : Account) (w : World) :
    Handling × List Question :=
  let reading := (readBalances r.compiler r.chain r.faults w n.address n.transaction).within
    ("Balance aggregation failed for " ++ n.address)
  match reading.answer with
  | .error e => (.done (.error e), reading.asked)
  | .ok fresh => (.refreshed n (account.merge fresh r.now), reading.asked)

/-- Saving a refreshed account. -/
def save (r : Reconciler) (n : Notification) (account : Account) (w : World) : Handling × World :=
  match w.saveAccount r.faults account with
  | .error e => (.done (.error e), w)
  | .ok w => (.saved n account, w)

/-- Publishing the balances of a saved account. -/
def announce (r : Reconciler) (n : Notification) (account : Account) (w : World) :
    Handling × World :=
  let update := BalanceUpdate.ofAccount account n.transaction
  match w.publish r.faults ⟨r.routing.balance account.address, update⟩ with
  | .error e => (.done (.error e), w)
  | .ok w => (.done (.ok (.updated update)), w)

/-- **One step of a delivery in progress,** with the questions it asks the chain. -/
def step (r : Reconciler) (h : Handling) (w : World) : Handling × World × List Question :=
  match h with
  | .arrived d => (r.lookUp d w, w, [])
  | .found n account =>
    let (next, asked) := r.refresh n account w
    (next, w, asked)
  | .refreshed n account =>
    let (next, w) := r.save n account w
    (next, w, [])
  | .saved n account =>
    let (next, w) := r.announce n account w
    (next, w, [])
  | .done result => (.done result, w, [])

/-- So many steps of a delivery in progress. -/
def steps (r : Reconciler) : Nat → Handling → World → Handling × World × List Question
  | 0, h, w => (h, w, [])
  | n + 1, h, w =>
    let (h, w, asked) := r.step h w
    let (h, w, more) := steps r n h w
    (h, w, asked ++ more)

/-- What came of a delivery in progress; one that is not done has come to nothing. -/
def result : Handling → Except Failure Outcome
  | .done result => result
  | _ => .error (.of (.other "Delivery in progress"))

/-- **Handling a delivery from its arrival to its end,** without any other in between. -/
def handle (r : Reconciler) (d : Delivery) (w : World) :
    Except Failure Outcome × World × List Question :=
  let (h, w, asked) := r.steps 4 (.arrived d) w
  (result h, w, asked)

/-- Whether a delivery is handled without a failure, and the world after it. -/
def succeeds (r : Reconciler) (d : Delivery) (w : World) : Bool × World × List Question :=
  let (result, w, asked) := r.handle d w
  (result.isOk, w, asked)

end Reconciler

end TransferLedger
