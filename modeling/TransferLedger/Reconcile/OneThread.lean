/-
# TransferLedger.Reconcile.OneThread -- a consumer and its runs on one thread

When all tasks share one thread, a task that has its turn keeps it until it can do no more, or has had
its share. Those that can go on stand in a row and take their turns in order. A run handles its delivery
in one turn. The one that sends is not in the row: it has its turn before the others, and again when the
row is empty or after a certain number of turns.
-/

import TransferLedger.Reconcile.Consumer

namespace TransferLedger

/-- What a consumer can do next on its own account. -/
def Consumer.ownEvent? (c : Consumer δ) : Option (ConsumerEvent δ) :=
  [.take, .start, .stop].find? fun e => (c.step e).isSome

/-- A task in the row. -/
inductive ThreadTask where
  | consumer
  /-- The run that has started first of those in progress. -/
  | run
deriving DecidableEq, Repr

/-- **The tasks of a workshop on one thread.** -/
structure OneThread where
  workshop : Workshop
  /-- What is still to be sent. -/
  unsent : List Delivery
  /-- The tasks that can go on, in order. -/
  row : List ThreadTask
  /-- The consumer could go on, but has had its share. -/
  postponed : Bool
deriving DecidableEq, Repr

namespace OneThread

/-- How much a task does at most in one turn. -/
def share : Nat := 128

/-- How many turns there are at most before the sender has its turn again. -/
def turnsAtMost : Nat := 61

/-- A new consumer and the deliveries that are to be sent to it. -/
def begin (s : Workshop) (ds : List Delivery) : OneThread := ⟨s, ds, [.consumer], false⟩

/-- The state with the consumer after some events, which can happen. -/
def did (s : OneThread) (events : List (ConsumerEvent Delivery)) : OneThread :=
  { s with workshop.consumer := (s.workshop.consumer.trace events).getD s.workshop.consumer }

/-- A consumer that was waiting and can go on now stands in the row. -/
def wake (s : OneThread) : OneThread :=
  if s.workshop.consumer.ownEvent?.isSome && !s.postponed && !s.row.contains .consumer then
    { s with row := s.row ++ [.consumer] }
  else s

/-! ## Turns -/

/-- The next delivery is being sent, if none is yet; after the last one the sender goes. -/
def offer (s : OneThread) : OneThread :=
  match s.workshop.consumer.sending, s.unsent with
  | [], d :: rest => { s with unsent := rest }.did [.send d]
  | [], [] => (s.did [.dropSender]).wake
  | _ :: _, _ => s

/-- **The turn of the sender:** it sends until the queue is full. -/
def sendOn : (share : Nat) → OneThread → OneThread
  | 0, s => s.offer
  | share + 1, s =>
    let s := s.offer
    match s.workshop.consumer.step (.accept 0) with
    | some _ => sendOn share (s.did [.accept 0]).wake
    | none => s

/-- **The turn of the consumer:** it starts runs until there is no delivery or no permit left. Before it
stops it has found that nothing more will come, which is part of its share. -/
def consumeOn : (share : Nat) → OneThread → OneThread
  | 0, s => { s with postponed := true }
  | share + 1, s =>
    match s.workshop.consumer.ownEvent? with
    | some .stop => if share = 0 then { s with postponed := true } else s.did [.stop]
    | some .start => consumeOn share { s.did [.start] with row := s.row ++ [.run] }
    | some e => consumeOn share (s.did [e])
    | none => s

/-- **The turn of a run:** the delivery is handled and counted, and the permit given back. -/
def runOn (r : Reconciler) (s : OneThread) : OneThread :=
  match s.workshop.consumer.running with
  | .working d :: _ =>
    let (success, world, _) := r.succeeds d s.workshop.world
    ({ s with workshop.world := world }.did [.finish 0 success, .count 0, .release 0]).wake
  | _ => s

/-- Some turns of the tasks in the row. -/
def turns (r : Reconciler) : Nat → OneThread → OneThread
  | 0, s => s
  | n + 1, s =>
    match s.row with
    | [] => s
    | .consumer :: rest => turns r n (consumeOn share { s with row := rest })
    | .run :: rest => turns r n (runOn r { s with row := rest })

/-- The turns up to the next one of the sender. A consumer that has had its share stands in the row
again after them. -/
def round (r : Reconciler) (s : OneThread) : OneThread :=
  let s := turns r turnsAtMost s
  if s.postponed then { s with row := s.row ++ [.consumer], postponed := false } else s

/-- So many rounds, or as many as there are until the sender finds that the consumer has stopped. -/
def rounds (r : Reconciler) : Nat → OneThread → OneThread
  | 0, s => s
  | n + 1, s =>
    let s := sendOn share s
    if s.workshop.consumer.stopped then s else rounds r n (round r s)

/-- **The workshop when the sender finds that the consumer has stopped.** In every round something is
sent, or a run ends, or the consumer goes on. -/
def finish (r : Reconciler) (s : Workshop) (ds : List Delivery) : Workshop :=
  (rounds r (5 * ds.length + 5) (begin s ds)).workshop

end OneThread

end TransferLedger
