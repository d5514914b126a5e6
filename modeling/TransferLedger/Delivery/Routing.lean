/-
# TransferLedger.Delivery.Routing -- names of messages

Messages are routed by keys that start with the name of a service. A transaction key ends in the
address that the transaction concerns; a registration key does not tell one, so its message does.
-/

import TransferLedger.Text.Ascii

namespace TransferLedger

/-- **The keys of a service.** -/
structure Routing where
  service : String
deriving DecidableEq, Repr

namespace Routing

/-- What all transaction keys start with. -/
def transactions (r : Routing) : String := r.service ++ "_transaction"

/-- The key of a transaction that concerns an address. -/
def transaction (r : Routing) (address : String) : String := r.transactions ++ "." ++ address

/-- The key of a registration. -/
def registration (r : Routing) : String := r.service ++ "_user.created"

/-- The key under which a balance is published. -/
def balance (r : Routing) (address : String) : String := r.service ++ "_balance." ++ address

/-- The address in a transaction key, if it is one and tells any. -/
def addressIn? (r : Routing) (key : String) : Option String :=
  match Text.stripPrefix? (r.transactions ++ ".").toList key.toList with
  | some (c :: rest) => some (String.ofList (c :: rest))
  | _ => none

end Routing

end TransferLedger
