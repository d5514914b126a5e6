/-
# TransferLedger.Reconcile.Update -- what is told about an account

After an account has been refreshed its balances are broadcast, with the transaction that caused the
refresh if there was one.
-/

import TransferLedger.Account.Basic
import TransferLedger.Delivery.Transaction

namespace TransferLedger

/-- **The balances of an account after a refresh.** -/
structure BalanceUpdate where
  address : String
  balance : String
  tokens : List TokenBalance
  transaction : Option Transaction
deriving DecidableEq, Repr

namespace BalanceUpdate

/-- What is told about an account. -/
def ofAccount (account : Account) (transaction : Option Transaction) : BalanceUpdate :=
  ⟨account.address, account.balance, account.tokens, transaction⟩

/-- An update as a document. -/
def toJson (u : BalanceUpdate) : Json :=
  .object [("address", .str u.address), ("balance", .str u.balance),
    ("erc20token", TokenBalance.listToJson u.tokens),
    ("tx", .orNull Transaction.toJson u.transaction)]

/-- A transaction or `null` in a document. -/
def transactionDecoder : Json.Decoder (Option Transaction) := fun r => do
  match ← Json.Decoder.document Json.greatestDepth r with
  | .null => return none
  | j =>
    match Transaction.ofJson? j with
    | some t => return some t
    | none => throw .misshapen

open Json.Decoder in
/-- An update from a document. -/
def decoder : Json.Decoder BalanceUpdate := fun r => do
  let tokens := list TokenBalance.decoder
  let fields ← record
    [field "address" text, field "balance" text, field "erc20token" tokens,
      field "tx" transactionDecoder] r
  return {
    address := ← fields.need "address" text
    balance := ← fields.need "balance" text
    tokens := ← fields.need "erc20token" tokens
    transaction := ← fields.optional "tx" transactionDecoder }

end BalanceUpdate

/-- **An update under its routing key.** -/
structure RoutedUpdate where
  routingKey : String
  update : BalanceUpdate
deriving DecidableEq, Repr

/-- A published update as a document. -/
def RoutedUpdate.toJson (p : RoutedUpdate) : Json :=
  .object [("routing_key", .str p.routingKey), ("update", p.update.toJson)]

end TransferLedger
