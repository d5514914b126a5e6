/-
# TransferLedger.Chain.JsonRpc -- requests to a node

A node takes numbered requests and replies with a document that holds a result or an error. The
network is a script of exchanges: each request sent takes the next one, and the requests are kept in
order. A client numbers its requests from one and repeats them under its policy, a new number each
time. A node writes a number as a mark `0x` or `0X` and at most 64 hex digits; the mark alone is
zero, and the digits may themselves carry one more mark, in lower case. Where one type of value is
expected and another is found, the message names what was found: scalars with their value, lists and
objects by their kind.
-/

import TransferLedger.Chain.Endpoint
import TransferLedger.Chain.Retry
import TransferLedger.Chain.Rotation
import TransferLedger.Json.Decode
import TransferLedger.Number.Word
import TransferLedger.Text.Quoted

namespace TransferLedger

open TransferLedger.Text TransferLedger.Number

/-! ## Values in answers -/

namespace Json

/-- What a document is, in words. -/
def kind : Json → String
  | .null => "null"
  | .bool true => "boolean `true`"
  | .bool false => "boolean `false`"
  | .num (.integer n) => "integer `" ++ intText n ++ "`"
  | .num (.fraction x) => "floating point `" ++ x.render ++ "`"
  | .str s => "string " ++ shown s
  | .arr _ => "sequence"
  | .obj _ => "map"

/-- The message for a document of the wrong type. -/
def unexpected (found : Json) (expected : String) : String :=
  "invalid type: " ++ found.kind ++ ", expected " ++ expected

end Json

/-- The digits of a number without the mark `0x` that they may carry. -/
def dropInnerMark : List Char → List Char
  | '0' :: 'x' :: rest => rest
  | digits => digits

/-- **The number that a node's quantity denotes.** -/
def quantity (text : String) : Except RpcFailure Word :=
  match afterHexMark? text.toList with
  | none => .error (.invalidResponse ("quantity without 0x: " ++ text))
  | some digits =>
    match Word.ofHexRun? (dropInnerMark digits) with
    | some w => .ok w
    | none => .error (.invalidResponse ("invalid quantity " ++ text))

/-! ## The network -/

/-- What comes of sending one request. -/
inductive Exchange where
  /-- A reply with its status and body. -/
  | reply (status : UInt16) (body : List UInt8)
  /-- No reply: while connecting, for lack of time, both at once, or for neither of these reasons.
  -/
  | failed (connecting timedOut : Bool)
  /-- A reply that breaks off. -/
  | broken
deriving DecidableEq, Repr

/-- **A numbered request.** -/
structure RpcRequest where
  id : Nat
  method : String
  params : Json
deriving DecidableEq, Repr

/-- A request as a document. -/
def RpcRequest.toJson (r : RpcRequest) : Json :=
  .object [("jsonrpc", .str "2.0"), ("id", .nat r.id), ("method", .str r.method),
    ("params", r.params)]

/-- **A script of exchanges,** and the requests sent so far. -/
structure Network where
  script : List Exchange
  sent : List RpcRequest
deriving DecidableEq, Repr

/-- Sending one request. A script that has run out replies with a server error. -/
def Network.send (n : Network) (r : RpcRequest) : Exchange × Network :=
  (n.script.headD (.reply 500 []), ⟨n.script.drop 1, n.sent ++ [r]⟩)

/-! ## Replies -/

/-- The error of a reply. -/
structure RpcErrorBody where
  code : Int64
  message : String
deriving DecidableEq, Repr

/-- The document of a reply. -/
structure RpcReply where
  result : Option Json
  error : Option RpcErrorBody
deriving DecidableEq, Repr

open Json.Decoder in
/-- The error of a reply from a document. -/
def RpcErrorBody.decoder : Json.Decoder RpcErrorBody := fun r => do
  let fields ← record [field "code" signed64, field "message" text] r
  return {
    code := ← fields.need "code" signed64
    message := ← fields.orElse "message" text "" }

open Json.Decoder in
/-- A reply from a document. Its result may nest one level less than a whole document. -/
def RpcReply.decoder : Json.Decoder RpcReply := fun r => do
  let result := optional (document (Json.greatestDepth - 1))
  let error := optional RpcErrorBody.decoder
  let fields ← record [field "result" result, field "error" error] r
  return {
    result := ← fields.orElse "result" result none
    error := ← fields.orElse "error" error none }

/-- The result of a reply: its error comes first, then a missing result. -/
def RpcReply.answer (reply : RpcReply) : Except RpcFailure Json :=
  match reply.error with
  | some e => .error (.rpc e.code e.message)
  | none =>
    match reply.result with
    | some j => .ok j
    | none => .error (.invalidResponse "missing result")

/-- **The result of an exchange.** -/
def Exchange.result : Exchange → Except RpcFailure Json
  | failed true _ => .error (.transport "connection refused or unreachable")
  | failed false true => .error (.transport "connection timed out")
  | failed false false => .error (.transport "request failed")
  | broken => .error (.transport "response body error")
  | reply status body =>
    if status < 200 || 300 ≤ status then .error (.http status)
    else
      match Json.Decoder.ofText? RpcReply.decoder body with
      | none => .error (.transport "response decode error")
      | some r => r.answer

/-- A result that has to be a text. -/
def textResult : Json → Except RpcFailure String
  | .str s => .ok s
  | j => .error (.invalidResponse (j.unexpected "a string"))

/-- A result that has to be a truth value. -/
def flagResult : Json → Except RpcFailure Bool
  | .bool b => .ok b
  | j => .error (.invalidResponse (j.unexpected "a boolean"))

/-! ## Clients -/

/-- **A client of one node.** -/
structure RpcClient where
  endpoint : Endpoint
  policy : RetryPolicy
  nextId : Nat
deriving DecidableEq, Repr

namespace RpcClient

/-- The client of the node at an address. -/
def connect (text : String) (policy : RetryPolicy) : Except RpcFailure RpcClient :=
  match Endpoint.parse? text with
  | some endpoint => .ok ⟨endpoint, policy, 1⟩
  | none => .error (.invalidEndpoint text)

/-- One attempt: the request under the next number. -/
def attempt (method : String) (params : Json) (decode : Json → Except RpcFailure α)
    (s : Nat × Network) : Except RpcFailure α × (Nat × Network) :=
  let (exchange, network) := s.2.send ⟨s.1, method, params⟩
  (exchange.result >>= decode, (s.1 + 1, network))

/-- **A request under the client's policy:** its answer, and the client and the network after it. -/
def request (c : RpcClient) (method : String) (params : Json)
    (decode : Json → Except RpcFailure α) (n : Network) :
    Except RetryFailure α × RpcClient × Network :=
  let r := c.policy.run (attempt method params decode) (c.nextId, n)
  (r.outcome, { c with nextId := r.state.1 }, r.state.2)

/-- The block that every read is made at. -/
def latest : Json := .str "latest"

/-- The native balance of an address. The quantity is read after the last attempt. -/
def balance (c : RpcClient) (address : String) (n : Network) :
    Except RetryFailure Word × RpcClient × Network :=
  let (r, c, n) := c.request "eth_getBalance" (.arr [.str address, latest]) textResult n
  (r >>= fun q => (quantity q).mapError .failed, c, n)

/-- A read-only call of a contract. -/
def call (c : RpcClient) (contract data : String) (n : Network) :
    Except RetryFailure String × RpcClient × Network :=
  c.request "eth_call" (.arr [.object [("to", .str contract), ("data", .str data)], latest])
    textResult n

/-- Whether the node is listening. -/
def listening (c : RpcClient) (n : Network) : Except RetryFailure Bool × RpcClient × Network :=
  c.request "net_listening" (.arr []) flagResult n

/-- The clients of some addresses, the blanks around each dropped. -/
def rotation (texts : List String) (policy : RetryPolicy) :
    Except Failure (Rotation RpcClient) := do
  let clients ← texts.mapM fun text =>
    let address := String.ofList (Text.trimBlanks text.toList)
    match connect address policy with
    | .ok client => .ok client
    | .error e => .error ⟨["Invalid provider endpoint " ++ address], .rpc e⟩
  Rotation.ofNodes? clients

/-- **A health check of the current client.** A wait that cannot be computed counts as no answer. -/
def checkCurrent (clients : Rotation RpcClient) (n : Network) :
    Bool × Rotation RpcClient × Network :=
  let (answer, client, n) := clients.node.listening n
  let clients := clients.withNodes fun i c => if i = clients.current then client else c
  let (healthy, clients) := clients.check (answer.mapError fun
    | .failed e => e
    | .wait fault => .transport fault.message)
  (healthy, clients, n)

end RpcClient

end TransferLedger
