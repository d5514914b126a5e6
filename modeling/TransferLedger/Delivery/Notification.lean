/-
# TransferLedger.Delivery.Notification -- what a message tells

A delivery is a message body under a routing key. It names the address to reconcile, in a
transaction key or else in its body, and carries a transaction if its body has a hash that is set.
-/

import TransferLedger.Delivery.Routing
import TransferLedger.Delivery.Transaction

namespace TransferLedger

open TransferLedger.Text

/-- **A message under its routing key.** -/
structure Delivery where
  routingKey : String
  body : List UInt8
deriving DecidableEq, Repr

/-- **What a message tells:** the address in lower case, and perhaps a transaction. -/
structure Notification where
  address : String
  transaction : Option Transaction
deriving DecidableEq, Repr

/-- Whether a value counts as given. The integer zero does not, while a fraction that is zero does.
-/
def isGiven : Json → Bool
  | .null | .bool false => false
  | .str s => s != ""
  | .num (.integer n) => n != 0
  | _ => true

namespace Notification

/-- The address that a delivery names. A transaction key comes before the body. -/
def address? (routing : Routing) (key : String) (body : Json) : Option String :=
  (routing.addressIn? key) <|> (body.get? "address").bind (·.text?)

/-- The transaction that a body carries. -/
def transaction? (body : Json) : Except Failure (Option Transaction) :=
  if (body.get? "hash").any isGiven then
    match Transaction.ofJson? body with
    | some t => .ok (some t)
    | none => .error ⟨["Invalid transaction notification"], .json⟩
  else .ok none

/-- **The notification in a delivery.** -/
def ofDelivery (routing : Routing) (d : Delivery) : Except Failure Notification :=
  match Json.parse? d.body with
  | none => .error ⟨["Delivery body is not JSON"], .json⟩
  | some body =>
    match address? routing d.routingKey body with
    | none =>
      .error (.of (.other ("No address in routing key " ++ d.routingKey ++ " or body")))
    | some address => do
      let transaction ← transaction? body
      return ⟨lower address, transaction⟩

end Notification

end TransferLedger
