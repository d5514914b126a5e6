/-
# TransferLedger.Service.Listening -- a stream on its bus

A stream has a receiver on the bus and takes one thing at a time: what the bus has for it next, what
its client does, or the end of the service. Meanwhile the bus goes on carrying updates. After its end a
stream takes nothing more.
-/

import TransferLedger.Service.Stream

namespace TransferLedger

/-- What the bus told with an event, if the event is from the bus. -/
def StreamEvent.received? : StreamEvent → Option (Received RoutedUpdate)
  | .update p => some (.message p)
  | .lagged count => some (.lagged count)
  | _ => none

/-- What may happen while a stream is open. -/
inductive StreamTurn where
  /-- The bus carries another update. -/
  | publish (p : RoutedUpdate)
  /-- The stream takes what the bus has for it, if anything. -/
  | receive (taken : Bool)
  /-- The stream takes an event that is not from the bus. -/
  | other (e : StreamEvent) (taken : Bool)
deriving DecidableEq, Repr

/-- **A stream on its bus,** with the events that it has taken so far. -/
structure Listening where
  bus : Bus RoutedUpdate
  receiver : Nat
  forwarding : Forwarding
  events : List (StreamEvent × Bool)
deriving DecidableEq, Repr

namespace Listening

/-- A stream that has just been opened on a bus. -/
def opened (b : Bus RoutedUpdate) : Listening := ⟨b.subscribe.2, b.subscribe.1, .opened, []⟩

/-- A stream that takes an event. -/
def take (l : Listening) (e : StreamEvent) (taken : Bool) : Listening :=
  { l with forwarding := l.forwarding.step e taken, events := l.events ++ [(e, taken)] }

/-- **A stream on its bus after a turn.** -/
def step (l : Listening) : StreamTurn → Listening
  | .publish p => { l with bus := l.bus.publish p }
  | .receive taken =>
    if l.forwarding.ended then l
    else
      match l.bus.receive? l.receiver with
      | none => l
      | some (got, bus) => { l with bus := bus }.take (.ofReceived got) taken
  | .other e taken =>
    if l.forwarding.ended || e.received?.isSome then l else l.take e taken

/-- A stream on its bus after some turns. -/
def run (l : Listening) (turns : List StreamTurn) : Listening := turns.foldl step l

end Listening

end TransferLedger
