/-
# TransferLedger.Reconcile.Consumer -- a queue with bounded work in progress

Senders put deliveries into a bounded queue. The consumer takes them out in order, waits for a
permit for each, and lets it run on its own; at most as many run at once as there are permits. A run
ends by counting its success or failure and then giving its permit back. When no sender is left and
the queue is empty the consumer waits for permits before it stops. The state below changes by one
event at a time, whichever may happen next.

A sender here waits until its delivery is accepted. One that gives up while the queue is full is left
out: its delivery has been counted as received, never comes into the queue, and is not taken off the
count again, so that the count would stay one too high. The runs below are those in which no sender
gives up.
-/

import TransferLedger.Reconcile.Handling

namespace TransferLedger

/-- What has been counted. -/
structure ConsumerCounts where
  received : Nat
  succeeded : Nat
  failed : Nat
deriving DecidableEq, Repr

/-- Counting one result. -/
def ConsumerCounts.count (s : ConsumerCounts) (success : Bool) : ConsumerCounts :=
  if success then { s with succeeded := s.succeeded + 1 } else { s with failed := s.failed + 1 }

/-- Counters as a document. -/
def ConsumerCounts.toJson (s : ConsumerCounts) : Json :=
  .object [("received", .nat s.received), ("succeeded", .nat s.succeeded),
    ("failed", .nat s.failed)]

/-- A delivery that holds a permit. -/
inductive Run (δ : Type) where
  | working (d : δ)
  /-- The delivery has been handled and is not counted yet. -/
  | handled (d : δ) (success : Bool)
  /-- The result is counted and the permit is not given back yet. -/
  | counted (d : δ) (success : Bool)
deriving DecidableEq, Repr

/-- **The state of a consumer.** -/
structure Consumer (δ : Type) where
  /-- How many deliveries the queue holds. -/
  buffer : Nat
  /-- How many permits there are. -/
  prefetch : Nat
  /-- How many senders may still send. -/
  senders : Nat
  /-- Deliveries that are being sent and are not accepted yet. -/
  sending : List δ
  queue : List δ
  /-- The delivery that has been taken out and waits for a permit. -/
  waiting : Option δ
  running : List (Run δ)
  stats : ConsumerCounts
  /-- The deliveries accepted so far, in order. -/
  accepted : List δ
  /-- The deliveries that got a permit so far, in order. -/
  started : List δ
  stopped : Bool
deriving DecidableEq, Repr

/-- What may happen next. -/
inductive ConsumerEvent (δ : Type) where
  /-- A sender starts to send, which is counted at once, and then waits until it is accepted. -/
  | send (d : δ)
  /-- The `i`th delivery being sent is accepted. -/
  | accept (i : Nat)
  | newSender
  | dropSender
  /-- The consumer takes the next delivery out of the queue. -/
  | take
  /-- The waiting delivery gets a permit. -/
  | start
  /-- The `i`th run has handled its delivery. -/
  | finish (i : Nat) (success : Bool)
  /-- The `i`th run counts its result. -/
  | count (i : Nat)
  /-- The `i`th run gives its permit back. -/
  | release (i : Nat)
  /-- The consumer has waited for its runs and stops. -/
  | stop
deriving DecidableEq, Repr

/-- A consumer that cannot be set up: it would need more permits than there can be. -/
inductive ConsumerFault where
  /-- Each place of the queue takes a permit. -/
  | queueTooLong
  | tooManyRuns
deriving DecidableEq, Repr

/-- The most permits that there can be. -/
def mostPermits : Nat := 2 ^ 61 - 1

/-- The wording of the fault. -/
def ConsumerFault.message (_ : ConsumerFault) : String :=
  "a semaphore may not have more than MAX_PERMITS permits (" ++
    Number.decimalText mostPermits ++ ")"

namespace Consumer

/-- A consumer with one sender. The queue holds one delivery at least, and there is one permit. -/
def idle (buffer prefetch : Nat) : Consumer δ where
  buffer := max buffer 1
  prefetch := max prefetch 1
  senders := 1
  sending := []
  queue := []
  waiting := none
  running := []
  stats := ⟨0, 0, 0⟩
  accepted := []
  started := []
  stopped := false

/-- **A new consumer** for a queue of some length and so many deliveries at once. -/
def create (buffer prefetch : Nat) : Except ConsumerFault (Consumer δ) :=
  if mostPermits < buffer then .error .queueTooLong
  else if mostPermits < prefetch then .error .tooManyRuns
  else .ok (idle buffer prefetch)

/-- How many permits the consumer waits for before it stops: it asks for all of them in a number of
32 bits. -/
def finalPermits (c : Consumer δ) : Nat := c.prefetch % 2 ^ 32

/-- **The state after an event,** if it can happen. -/
def step (c : Consumer δ) : ConsumerEvent δ → Option (Consumer δ)
  | .send d =>
    if c.senders = 0 then none
    else some { c with
      sending := c.sending ++ [d]
      stats := { c.stats with received := c.stats.received + 1 } }
  | .accept i =>
    match c.sending[i]? with
    | some d =>
      if c.queue.length < c.buffer then
        some { c with
          sending := c.sending.eraseIdx i
          queue := c.queue ++ [d]
          accepted := c.accepted ++ [d] }
      else none
    | none => none
  | .newSender => if c.senders = 0 then none else some { c with senders := c.senders + 1 }
  | .dropSender =>
    if c.senders = 0 ∨ (c.senders = 1 ∧ c.sending ≠ []) then none
    else some { c with senders := c.senders - 1 }
  | .take =>
    match c.waiting, c.queue with
    | none, d :: rest => some { c with waiting := some d, queue := rest }
    | _, _ => none
  | .start =>
    match c.waiting with
    | some d =>
      if c.running.length < c.prefetch then
        some { c with
          waiting := none
          running := c.running ++ [.working d]
          started := c.started ++ [d] }
      else none
    | none => none
  | .finish i success =>
    match c.running[i]? with
    | some (.working d) => some { c with running := c.running.set i (.handled d success) }
    | _ => none
  | .count i =>
    match c.running[i]? with
    | some (.handled d success) =>
      some { c with
        running := c.running.set i (.counted d success)
        stats := c.stats.count success }
    | _ => none
  | .release i =>
    match c.running[i]? with
    | some (.counted _ _) => some { c with running := c.running.eraseIdx i }
    | _ => none
  | .stop =>
    if c.senders = 0 ∧ c.sending = [] ∧ c.queue = [] ∧ c.waiting = none ∧ !c.stopped ∧
        c.finalPermits + c.running.length ≤ c.prefetch then
      some { c with stopped := true }
    else none

/-- The state after some events, if they can happen one after the other. -/
def trace (c : Consumer δ) : List (ConsumerEvent δ) → Option (Consumer δ)
  | [] => some c
  | e :: rest => (c.step e).bind fun c => c.trace rest

/-- The events of one delivery that is sent to an idle consumer and runs to its end. -/
def course (d : δ) (success : Bool) : List (ConsumerEvent δ) :=
  [.send d, .accept 0, .take, .start, .finish 0 success, .count 0, .release 0]

end Consumer

/-! ## One delivery at a time -/

/-- A reconciler at work: its consumer and the shared state. -/
structure Workshop where
  consumer : Consumer Delivery
  world : World
deriving DecidableEq, Repr

/-- The workshop after a delivery has been sent and handled to its end, with the questions that were
asked. -/
def Workshop.deliver (r : Reconciler) (s : Workshop) (d : Delivery) : Workshop × List Question :=
  let (success, world, asked) := r.succeeds d s.world
  (⟨(s.consumer.trace (Consumer.course d success)).getD s.consumer, world⟩, asked)

end TransferLedger
