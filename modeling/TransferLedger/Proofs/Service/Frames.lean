/-
# TransferLedger.Proofs.Service.Frames -- what the text of a frame tells

The text of a frame spells a document that tells all of an update: its routing key, the balances of the
account with each of its tokens, and the transaction with its logs and with the fields that this library
does not read. What a document tells is said by its keys and by what stands under each.
-/

import TransferLedger.Proofs.Json.Fields
import TransferLedger.Proofs.Json.Grammar
import TransferLedger.Service.Stream

namespace TransferLedger

open TransferLedger.Json

/-- The keys of an object, in the order in which they stand. -/
def Json.keys : Json → List String
  | .obj fields => fields.map (·.1)
  | _ => []

/-! ## What a document tells -/

/-- What a document tells of a token balance. -/
structure TokenBalance.ToldBy (t : TokenBalance) (doc : Json) : Prop where
  keys : doc.keys = ["symbol", "decimals", "address", "balance"]
  symbol : doc.get? "symbol" = some (.str t.symbol)
  decimals : doc.get? "decimals" = some (.str t.decimals)
  address : doc.get? "address" = some (.str t.address)
  balance : doc.get? "balance" = some (.str t.balance)

/-- What a document tells of a log. A signature that was not told is left out. -/
structure TransactionLog.ToldBy (log : TransactionLog) (doc : Json) : Prop where
  keys : doc.keys =
    ["address", "topics", "data"] ++ (log.signature.map fun _ => "signature").toList
  address : doc.get? "address" = some (.str log.address)
  topics : doc.get? "topics" = some (.arr (log.topics.map .str))
  data : doc.get? "data" = some (.str log.data)
  signature : doc.get? "signature" = log.signature.map .str

/-- **What a document tells of a transaction.** The fields that this library does not read are told as
they came. -/
structure Transaction.ToldBy (t : Transaction) (doc : Json) : Prop where
  keys : doc.keys = ["hash", "logs"] ++ t.extra.map (·.1)
  hash : doc.get? "hash" = some (.str t.hash)
  logs : ∃ logs, doc.get? "logs" = some (.arr logs) ∧
    List.Forall₂ TransactionLog.ToldBy t.logs logs
  extra : ∀ key, key ≠ "hash" → key ≠ "logs" → doc.get? key = t.extra.lookup key

/-- **What a document tells of an update,** where `null` stands for no transaction. -/
structure BalanceUpdate.ToldBy (u : BalanceUpdate) (doc : Json) : Prop where
  keys : doc.keys = ["address", "balance", "erc20token", "tx"]
  address : doc.get? "address" = some (.str u.address)
  balance : doc.get? "balance" = some (.str u.balance)
  tokens : ∃ tokens, doc.get? "erc20token" = some (.arr tokens) ∧
    List.Forall₂ TokenBalance.ToldBy u.tokens tokens
  silent : u.transaction = none → doc.get? "tx" = some .null
  transaction : ∀ t, u.transaction = some t → ∃ tx, doc.get? "tx" = some tx ∧ t.ToldBy tx

/-- **What a document tells of an update under its routing key.** -/
structure RoutedUpdate.ToldBy (p : RoutedUpdate) (doc : Json) : Prop where
  keys : doc.keys = ["routing_key", "update"]
  routingKey : doc.get? "routing_key" = some (.str p.routingKey)
  update : ∃ update, doc.get? "update" = some update ∧ p.update.ToldBy update

/-- **A text that tells an update:** it spells a document that does. If the numbers of the document are
integers that fit, the reader takes the text for this document. -/
def RoutedUpdate.ToldIn (p : RoutedUpdate) (text : String) : Prop :=
  ∃ doc, Json.Spells text doc ∧ p.ToldBy doc ∧
    (doc.isKept = true → Reading.ofBytes (Text.Utf8.encode text) = (Reading.ofJson doc, true))

/-! ## What is sent -/

theorem TokenBalance.toldBy_sent (t : TokenBalance) : t.ToldBy t.sent := ⟨rfl, rfl, rfl, rfl, rfl⟩

theorem TransactionLog.toldBy_sent (log : TransactionLog) : log.ToldBy log.sent := by
  obtain ⟨address, topics, data, signature⟩ := log
  cases signature <;> exact ⟨rfl, rfl, rfl, rfl, rfl⟩

/-- What is told of each item of a list, if it is told of any. -/
theorem forall₂_map_right {α β : Type} {R : α → β → Prop} {f : α → β} (each : ∀ a, R a (f a))
    (as : List α) : List.Forall₂ R as (as.map f) := by
  rw [List.forall₂_map_right_iff, List.forall₂_same]
  exact fun a _ => each a

theorem Transaction.toldBy_sent (t : Transaction) : t.ToldBy t.sent where
  keys := by simp [sent, Json.keys]
  hash := rfl
  logs := ⟨_, rfl, forall₂_map_right TransactionLog.toldBy_sent t.logs⟩
  extra := by
    intro key hash logs
    show (("hash", _) :: ("logs", _) :: t.extra).lookup key = _
    rw [lookup_cons_eq_ite, if_neg hash, lookup_cons_eq_ite, if_neg logs]

theorem BalanceUpdate.toldBy_sent (u : BalanceUpdate) : u.ToldBy u.sent where
  keys := rfl
  address := rfl
  balance := rfl
  tokens := ⟨_, rfl, forall₂_map_right TokenBalance.toldBy_sent u.tokens⟩
  silent := by
    intro none
    show some (Json.orNull Transaction.sent u.transaction) = _
    rw [none]
    rfl
  transaction := by
    intro t told
    refine ⟨t.sent, ?_, t.toldBy_sent⟩
    show some (Json.orNull Transaction.sent u.transaction) = _
    rw [told]
    rfl

/-- **The text of a frame tells its update.** -/
theorem RoutedUpdate.toldIn_render (p : RoutedUpdate) : p.ToldIn p.sent.render := by
  refine ⟨p.sent, spells_render p.sent, ⟨rfl, rfl, _, rfl, p.update.toldBy_sent⟩, ?_⟩
  exact fun kept => Reading.ofBytes_render kept

end TransferLedger
