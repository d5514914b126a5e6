/-
# TransferLedger.Reconcile.Bus -- broadcasting

A bus carries each message to all its receivers. It keeps only as many messages as its capacity,
which is a power of two: a receiver that falls further behind is told how many it has missed and
goes on with the oldest one kept. A receiver sees nothing from before it subscribed, and without
receivers a message is lost.
-/

import TransferLedger.Number.Digits

namespace TransferLedger

/-- **A bus.** -/
structure Bus (α : Type) where
  capacity : Nat
  /-- The latest messages, oldest first. -/
  kept : List α
  /-- How many messages it has carried. -/
  total : Nat
  /-- For each receiver, the place of the next message in all it has carried, unless it has left. -/
  receivers : List (Option Nat)
deriving DecidableEq, Repr

/-- A capacity that no bus can have. -/
inductive CapacityFault where
  | zero
  | tooLarge
deriving DecidableEq, Repr

/-- The wording of the fault. -/
def CapacityFault.message : CapacityFault → String
  | zero => "broadcast channel capacity cannot be zero"
  | tooLarge => "broadcast channel capacity exceeded `usize::MAX / 2`"

/-- What a receiver gets. -/
inductive Received (α : Type) where
  | message (m : α)
  /-- So many messages were missed. -/
  | lagged (count : Nat)
deriving DecidableEq, Repr

namespace Bus

/-- The least power of two at or above a number. -/
def roundUp (n : Nat) : Nat := if n ≤ 1 then 1 else 2 ^ ((n - 1).log2 + 1)

/-- A bus that keeps at least so many messages. -/
def create (capacity : Nat) : Except CapacityFault (Bus α) :=
  if capacity = 0 then .error .zero
  else if (2 ^ 64 - 1) / 2 < capacity then .error .tooLarge
  else .ok ⟨roundUp capacity, [], 0, []⟩

/-- How many receivers there are. -/
def receiverCount (b : Bus α) : Nat := b.receivers.countP (·.isSome)

/-- A new receiver, by its number. -/
def subscribe (b : Bus α) : Nat × Bus α :=
  (b.receivers.length, { b with receivers := b.receivers ++ [some b.total] })

/-- The bus after a receiver has left. -/
def leave (b : Bus α) (receiver : Nat) : Bus α :=
  { b with receivers := b.receivers.set receiver none }

/-- **The bus after a message.** -/
def publish (b : Bus α) (m : α) : Bus α :=
  if b.receiverCount = 0 then b
  else
    let all := b.kept ++ [m]
    { b with kept := all.drop (all.length - b.capacity), total := b.total + 1 }

/-- What is in store for a receiver at a place: how many messages it has missed for good, and those
that it can still have. -/
def pending (b : Bus α) (place : Nat) : Nat × List α :=
  let unread := b.total - place
  (unread - b.kept.length, b.kept.drop (b.kept.length - unread))

/-- The bus after a receiver has come to a place. -/
def moveTo (b : Bus α) (receiver place : Nat) : Bus α :=
  { b with receivers := b.receivers.set receiver (some place) }

/-- **The next thing that a receiver gets,** if there is one, and the bus after that. A receiver that
is told of missed messages goes on with the oldest one kept. -/
def receive? (b : Bus α) (receiver : Nat) : Option (Received α × Bus α) :=
  match b.receivers[receiver]?.join with
  | none => none
  | some place =>
    match b.pending place with
    | (0, []) => none
    | (0, m :: _) => some (.message m, b.moveTo receiver (place + 1))
    | (missed, _) => some (.lagged missed, b.moveTo receiver (place + missed))

/-- **All that a receiver gets,** and the bus after that. One that has left gets nothing. -/
def drain (b : Bus α) (receiver : Nat) : Option (List (Received α)) × Bus α :=
  match b.receivers[receiver]?.join with
  | none => (none, b)
  | some place =>
    let (missed, messages) := b.pending place
    let notices := if missed = 0 then [] else [Received.lagged missed]
    (some (notices ++ messages.map .message),
      { b with receivers := b.receivers.set receiver (some b.total) })

end Bus

end TransferLedger
