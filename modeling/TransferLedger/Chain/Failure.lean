/-
# TransferLedger.Chain.Failure -- why a node gave no answer

A request to a node fails on the way, by the status of the reply, by an error that the node reports,
or because the reply makes no sense. The category of a failure says who is to blame, and with that
whether asking again may help.
-/

import TransferLedger.Number.Digits
import TransferLedger.Text.Ascii

namespace TransferLedger

open TransferLedger.Text TransferLedger.Number

/-- **A failed request to a node.** -/
inductive RpcFailure where
  | invalidEndpoint (endpoint : String)
  | transport (reason : String)
  | http (status : UInt16)
  | rpc (code : Int64) (message : String)
  | invalidResponse (reason : String)
deriving DecidableEq, Repr

/-- Who is to blame for a failure. -/
inductive RpcCategory where
  /-- The request is at fault. -/
  | client
  /-- The node is at fault. -/
  | provider
  /-- Too many requests were sent. -/
  | rateLimit
  /-- The contract refused. -/
  | execution
deriving DecidableEq, Repr

/-- Whether a word occurs in a text. -/
def occursIn (word : List Char) : List Char → Bool
  | [] => word.isEmpty
  | c :: cs => (stripPrefix? word (c :: cs)).isSome || occursIn word cs

/-- Whether a message tells of a contract that refused. No letter outside ASCII has a letter of
these words as its lower case, so letter case is that of ASCII. -/
def tellsOfExecution (message : String) : Bool :=
  let cs := (lower message).toList
  occursIn "revert".toList cs || occursIn "out of gas".toList cs

namespace RpcFailure

/-- The category of an error that a node reports. -/
def codeCategory (code : Int) (message : String) : RpcCategory :=
  if -32602 ≤ code ∧ code ≤ -32600 then .client
  else if code = -32005 then .rateLimit
  else if code = 3 then .execution
  else if -32099 ≤ code ∧ code ≤ -32000 ∧ tellsOfExecution message then .execution
  else .provider

/-- **The category of a failure.** -/
def category : RpcFailure → RpcCategory
  | invalidEndpoint _ => .client
  | transport _ | invalidResponse _ => .provider
  | http status =>
    if status = 429 then .rateLimit
    else if 400 ≤ status ∧ status < 500 then .client
    else .provider
  | rpc code message => codeCategory code.toInt message

/-- Whether asking again may help. -/
def isTransient (e : RpcFailure) : Bool :=
  e.category = .provider || e.category = .rateLimit

/-- The wording of a failure. -/
def message : RpcFailure → String
  | invalidEndpoint endpoint => "invalid endpoint " ++ endpoint
  | transport reason => "transport error: " ++ reason
  | http status => "HTTP status " ++ decimalText status.toNat
  | rpc code message => "JSON-RPC error " ++ intText code.toInt ++ ": " ++ message
  | invalidResponse reason => "invalid response: " ++ reason

end RpcFailure

end TransferLedger
