/-
# TransferLedger.Service.Api -- answering requests

The service takes messages for its consumer, indexes logs, registers accounts and shows them, tells
about its health, and opens streams of updates. A body that has to be a document is refused for its
announced type first, then for its length, then where its text is malformed or of the wrong shape. A
list of logs is indexed as a whole or, if one of them has a bad word, not at all.
-/

import TransferLedger.Reconcile.Consumer
import TransferLedger.Service.Registration
import TransferLedger.Service.Request
import TransferLedger.Service.Stream

namespace TransferLedger

open TransferLedger.Text

/-- **An answer:** its status, and its body if that is a document. -/
structure Response where
  status : Nat
  body : Option Json
deriving DecidableEq, Repr

namespace Response

/-- An answer without a document. -/
def bare (status : Nat) : Response := ⟨status, none⟩

/-- An answer that tells what went wrong. -/
def error (status : Nat) (message : String) : Response :=
  ⟨status, some (.object [("error", .str message)])⟩

/-- The answer to a request that failed within the service: only the outermost step is told. -/
def internal (f : Failure) : Response := error 500 f.headline

end Response

/-- A stream and its receiver on the bus. -/
structure OpenStream where
  receiver : Nat
  forwarding : Forwarding
deriving DecidableEq, Repr

/-- **The state of the service.** -/
structure Service where
  workshop : Workshop
  /-- The consumer no longer takes deliveries. -/
  stopped : Bool
  shutdown : Bool
  stream : Option OpenStream
  version : String
  startedAt : Int64
deriving DecidableEq, Repr

namespace Service

/-! ## Bodies -/

/-- The longest body that is taken, in bytes. -/
def longestBody : Nat := 2 * 1024 * 1024

/-- The value of a body that has to be a document, or the answer that refuses it. What follows the
value is not looked at. -/
def document (r : Request) (decoder : Json.Decoder α) : Except Response α :=
  if !(r.header? "content-type").any ContentType.isJson then .error (.bare 415)
  else if longestBody < r.body.length then .error (.bare 413)
  else
    match Json.Decoder.ofFront decoder r.body with
    | .ok a => .ok a
    | .error .malformed => .error (.bare 400)
    | .error .misshapen => .error (.bare 422)

open Json.Decoder in
/-- The address of a new account from a document. -/
def addressBody : Json.Decoder String := fun r => do
  let fields ← record [field "address" text] r
  fields.need "address" text

/-! ## Answers -/

/-- How the service is doing. -/
def health (r : Reconciler) (s : Service) : Response :=
  match s.workshop.world.countLogs r.faults with
  | .error e => .internal e
  | .ok rows => ⟨200, some (.object
      [("status", .str "healthy"), ("version", .str s.version),
        ("uptime_seconds", .int (r.now.toInt - s.startedAt.toInt)),
        ("consumer", s.workshop.consumer.stats.toJson), ("log_rows", .nat rows)])⟩

/-- Sending a message to the consumer, which handles it. -/
def event (r : Reconciler) (s : Service) (key : Request.Parameter) (body : List UInt8) :
    Response × Service × List Question :=
  match key with
  | none => (.bare 400, s, [])
  | some key =>
    if longestBody < body.length then (.bare 413, s, [])
    else if s.stopped then (.error 503 "Consumer has stopped", s, [])
    else
      let (workshop, asked) := s.workshop.deliver r ⟨key, body⟩
      (.bare 202, { s with workshop := workshop }, asked)

/-- The rows of some logs, all or none. -/
def rowsOf (logs : List RawLog) : Except Failure (List LogRow) :=
  logs.mapM fun log => (LogRow.ofLog log).mapError BadWord.failure

/-- **Indexing logs.** -/
def index (r : Reconciler) (s : Service) (request : Request) : Response × Service :=
  match document request (Json.Decoder.list RawLog.decoder) with
  | .error refusal => (refusal, s)
  | .ok logs =>
    match rowsOf logs with
    | .error e => (.error 422 e.message, s)
    | .ok rows =>
      match s.workshop.world.insertLogs r.faults rows with
      | .error e => (.internal e, s)
      | .ok w => (⟨200, some (.object [("inserted", .nat rows.length)])⟩,
          { s with workshop := { s.workshop with world := w } })

/-- Showing an account. -/
def showAccount (r : Reconciler) (s : Service) (address : Request.Parameter) : Response :=
  match address with
  | none => .bare 400
  | some address =>
    match s.workshop.world.getAccount r.faults address with
    | .error e => .internal e
    | .ok none => .error 404 ("No account " ++ address)
    | .ok (some account) => ⟨200, some account.toJson⟩

/-- The answer to a registration. -/
def registered : Registration → Response
  | .existing account => ⟨200, some account.toJson⟩
  | .created account => ⟨201, some account.toJson⟩
  | .failed e => .internal e
  | .arrived _ | .missing _ => .bare 500

/-- Registering an account. -/
def register (r : Reconciler) (s : Service) (request : Request) : Response × Service :=
  match document request addressBody with
  | .error refusal => (refusal, s)
  | .ok address =>
    let (registration, w) := Registration.run r.faults address s.workshop.world
    (registered registration, { s with workshop := { s.workshop with world := w } })

/-- The answer to a request for a stream over a connection that cannot carry one: what is missing
from a proper request is found first. -/
def refuseStream (request : Request) : Response :=
  let announces (name word : String) : Bool :=
    (request.header? name).any (sameIgnoringCase · word)
  let upgrades := (request.header? "connection").any fun v =>
    occursIn "upgrade".toList (lower v).toList
  if request.method != "GET" then .bare 405
  else if !upgrades || !announces "upgrade" "websocket" ||
      !announces "sec-websocket-version" "13" || (request.header? "sec-websocket-key").isNone then
    .bare 400
  else .bare 426

/-- The answer to a request, whose body is sent whatever the method. -/
def dispatch (r : Reconciler) (s : Service) (request : Request) (route : Request.Route) :
    Response × Service × List Question :=
  match route with
  | .health => (s.health r, s, [])
  | .logs => let (answer, s) := s.index r request; (answer, s, [])
  | .accounts => let (answer, s) := s.register r request; (answer, s, [])
  | .account address => (s.showAccount r address, s, [])
  | .event key => s.event r key request.body
  | .stream => (refuseStream request, s, [])

/-- **Answering a request,** with the questions that it leads to. -/
def answer (r : Reconciler) (s : Service) (request : Request) :
    Response × Service × List Question :=
  match Request.route? request.path with
  | none => (.bare 404, s, [])
  | some route =>
    if route.admits request.method then
      let (response, s, asked) := s.dispatch r request route
      (if request.method = "HEAD" then .bare response.status else response, s, asked)
    else (.bare 405, s, [])

/-! ## Streams -/

/-- The service with a change of its bus. -/
def withBus (s : Service) (bus : Bus RoutedUpdate) : Service :=
  { s with workshop := { s.workshop with world := { s.workshop.world with bus := bus } } }

/-- The bus of the service. -/
def bus (s : Service) : Bus RoutedUpdate := s.workshop.world.bus

/-- The service without its stream. -/
def dropStream (s : Service) : Service :=
  match s.stream with
  | none => s
  | some stream => { s.withBus (s.bus.leave stream.receiver) with stream := none }

/-- The service with a new stream in place of any other. -/
def openStream (s : Service) : Service :=
  let s := s.dropStream
  let (receiver, bus) := s.bus.subscribe
  { s.withBus bus with stream := some ⟨receiver, .opened⟩ }

/-- The service after something has happened to its stream. -/
def streamEvent (s : Service) (e : StreamEvent) : Service :=
  { s with stream := s.stream.map fun stream =>
      { stream with forwarding := stream.forwarding.step e true } }

/-- **The frames that a client gets now,** whether its stream is over with them, and the service
after that: all updates on the bus are forwarded, and then a shutdown if there is one. -/
def settle (s : Service) : Option (List Frame × Bool) × Service :=
  match s.stream with
  | none => (none, s)
  | some stream =>
    let (received, bus) := s.bus.drain stream.receiver
    let updates := (received.getD []).map StreamEvent.ofReceived
    let events := updates ++ (if s.shutdown then [.shutdown] else [])
    let forwarding := stream.forwarding.run (events.map (·, true))
    let fresh := { forwarding with offered := [] }
    let s := { s.withBus bus with stream := some { stream with forwarding := fresh } }
    (some (forwarding.offered, forwarding.ended), if forwarding.ended then s.dropStream else s)

end Service

end TransferLedger
