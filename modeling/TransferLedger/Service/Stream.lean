/-
# TransferLedger.Service.Stream -- forwarding updates to one client

A client that opens a stream is sent every update from then on, as the text of a document. The
stream ends when the service shuts down, which is told by a closing frame, when the client closes or
breaks off, when a frame cannot be sent, or when the bus is gone. Messages of the client are not
looked at, and neither is a notice that updates were missed.
-/

import TransferLedger.Json.Printer
import TransferLedger.Reconcile.Bus
import TransferLedger.Reconcile.Update

namespace TransferLedger

/-! ## Frames -/

/-- A token balance as it is sent: what is sent has its fields in the order in which they are listed
here, and not in that of their keys. -/
def TokenBalance.sent (t : TokenBalance) : Json :=
  .obj [("symbol", .str t.symbol), ("decimals", .str t.decimals), ("address", .str t.address),
    ("balance", .str t.balance)]

/-- A log as it is sent. -/
def TransactionLog.sent (log : TransactionLog) : Json :=
  .obj ([("address", .str log.address), ("topics", .texts log.topics), ("data", .str log.data)] ++
    (log.signature.map fun s => ("signature", Json.str s)).toList)

/-- A transaction as it is sent, the fields that this library does not read at the end. -/
def Transaction.sent (t : Transaction) : Json :=
  .obj ([("hash", .str t.hash), ("logs", .arr (t.logs.map TransactionLog.sent))] ++ t.extra)

/-- The balances of an account as they are sent. -/
def BalanceUpdate.sent (u : BalanceUpdate) : Json :=
  .obj [("address", .str u.address), ("balance", .str u.balance),
    ("erc20token", .arr (u.tokens.map TokenBalance.sent)),
    ("tx", .orNull Transaction.sent u.transaction)]

/-- **A published update as it is sent.** -/
def RoutedUpdate.sent (p : RoutedUpdate) : Json :=
  .obj [("routing_key", .str p.routingKey), ("update", p.update.sent)]

/-- What is sent to a client. -/
inductive Frame where
  | text (update : RoutedUpdate)
  | close
deriving DecidableEq, Repr

/-- The text of a frame, if it has one. -/
def Frame.text? : Frame → Option String
  | text update => some update.sent.render
  | close => none

/-! ## The stream -/

/-- What may happen to a stream. -/
inductive StreamEvent where
  | update (p : RoutedUpdate)
  /-- So many updates were missed. -/
  | lagged (count : Nat)
  | busClosed
  /-- A message of the client other than a closing one. -/
  | clientMessage
  /-- The client closes or breaks off. -/
  | clientGone
  | shutdown
deriving DecidableEq, Repr

/-- **A stream:** the frames offered to the client so far, and whether it has ended. -/
structure Forwarding where
  offered : List Frame
  ended : Bool
deriving DecidableEq, Repr

namespace Forwarding

/-- A stream that has just been opened. -/
def opened : Forwarding := ⟨[], false⟩

/-- **A stream after an event.** `taken` says whether a frame offered now can be sent. -/
def step (s : Forwarding) (e : StreamEvent) (taken : Bool) : Forwarding :=
  if s.ended then s
  else
    match e with
    | .update p => ⟨s.offered ++ [.text p], !taken⟩
    | .lagged _ | .clientMessage => s
    | .shutdown => ⟨s.offered ++ [.close], true⟩
    | .busClosed | .clientGone => ⟨s.offered, true⟩

/-- A stream after some events. -/
def run (s : Forwarding) (events : List (StreamEvent × Bool)) : Forwarding :=
  events.foldl (fun s (e, taken) => s.step e taken) s

end Forwarding

/-- What a receiver gets as an event. -/
def StreamEvent.ofReceived : Received RoutedUpdate → StreamEvent
  | .message p => .update p
  | .lagged count => .lagged count

end TransferLedger
