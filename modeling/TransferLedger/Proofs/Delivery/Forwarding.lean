/-
# TransferLedger.Proofs.Delivery.Forwarding -- what is passed on of a transaction

A transaction that comes with a delivery is told again with the balances that it caused to be
refreshed. Its fields are passed on as they came, also those that this library does not read. Of each
log only the fields are passed on that a log is read for, so that a transaction comes through whole
exactly if its logs have no others.
-/

import TransferLedger.Proofs.Json.Fields
import TransferLedger.Proofs.Reconcile.Handling

namespace TransferLedger

open TransferLedger.Json

/-- What two lists have in common with a third one item by item. -/
theorem exists_common {R S : α → β → Prop} {as : List α} {bs : List β} (h : List.Forall₂ R as bs)
    (h' : List.Forall₂ S as bs) {a : α} (mem : a ∈ as) : ∃ b, R a b ∧ S a b := by
  induction h with
  | nil => exact nomatch mem
  | cons first _ ih =>
    cases h' with
    | cons first' rest' =>
      rcases List.mem_cons.mp mem with rfl | later
      · exact ⟨_, first, first'⟩
      · exact ih rest' later

/-! ## One log -/

namespace TransactionLog

/-- A field that is passed on: one of the four that a log is read for. A signature that is `null` counts
as none. -/
def Known (key : String) (v : Json) : Prop :=
  key = "address" ∨ key = "topics" ∨ key = "data" ∨ (key = "signature" ∧ v ≠ .null)

/-- The fields that a log is told with. -/
def fields (log : TransactionLog) : List (String × Json) :=
  [("address", .str log.address), ("topics", .texts log.topics), ("data", .str log.data)] ++
    (log.signature.map fun s => ("signature", Json.str s)).toList

theorem get?_toJson (log : TransactionLog) (key : String) :
    log.toJson.get? key =
      if key = "address" then some (.str log.address)
      else if key = "topics" then some (.texts log.topics)
      else if key = "data" then some (.str log.data)
      else if key = "signature" then log.signature.map .str
      else none := by
  have once : (log.fields.map (·.1)).Nodup := by
    cases told : log.signature <;> simp [fields, told]
  show (object log.fields).get? key = _
  rw [get?_object once]
  cases told : log.signature <;>
    simp only [fields, told, Option.map_none, Option.map_some, Option.toList_none,
      Option.toList_some, List.append_nil, List.cons_append, List.nil_append, lookup_cons_eq_ite,
      List.lookup_nil, ite_self]

/-- **What a log tells of the document that it was read from.** -/
structure ReadFrom (log : TransactionLog) (entry : Json) : Prop where
  address : ∀ v, entry.get? "address" = some v → v = .str log.address
  topics : ∀ v, entry.get? "topics" = some v → v = .texts log.topics
  data : ∀ v, entry.get? "data" = some v → v = .str log.data
  signature : ∀ v, entry.get? "signature" = some v →
    (v = .null ∧ log.signature = none) ∨ ∃ s, v = .str s ∧ log.signature = some s

theorem readFrom_of_decoder {log : TransactionLog} {entry : Json}
    (h : decoder (Reading.ofJson entry) = .ok log) : log.ReadFrom entry := by
  obtain ⟨record, fields, h⟩ := Fallible.bind_eq_ok.mp h
  obtain ⟨address, hAddress, h⟩ := Fallible.bind_eq_ok.mp h
  obtain ⟨topics, hTopics, h⟩ := Fallible.bind_eq_ok.mp h
  obtain ⟨data, hData, h⟩ := Fallible.bind_eq_ok.mp h
  obtain ⟨signature, hSignature, h⟩ := Fallible.bind_eq_ok.mp h
  cases h
  rcases Decoder.record_ofJson fields with ⟨items, rfl⟩ | ⟨own, rfl, found⟩
  · exact ⟨nofun, nofun, nofun, nofun⟩
  · rw [Decoder.Record.need, found] at hAddress
    rw [Decoder.Record.orElse, found] at hTopics hData hSignature
    refine ⟨?_, ?_, ?_, ?_⟩ <;> intro v given <;> replace given : own.lookup _ = some v := given
    · rw [given] at hAddress
      exact Decoder.text_ofJson.mp hAddress
    · rw [given] at hTopics
      exact Decoder.list_text_ofJson hTopics
    · rw [given] at hData
      exact Decoder.text_ofJson.mp hData
    · rw [given] at hSignature
      exact Decoder.optional_text_ofJson.mp hSignature

/-- **A field of a log is passed on if it is known, and only then.** -/
theorem ReadFrom.get?_toJson_iff {log : TransactionLog} {entry : Json} (h : log.ReadFrom entry)
    {key : String} {v : Json} (given : entry.get? key = some v) :
    log.toJson.get? key = some v ↔ Known key v := by
  rw [get?_toJson, Known]
  by_cases address : key = "address"
  · subst address
    simp [h.address v given]
  by_cases topics : key = "topics"
  · subst topics
    simp [h.topics v given]
  by_cases data : key = "data"
  · subst data
    simp [h.data v given]
  by_cases signature : key = "signature"
  · subst signature
    rcases h.signature v given with ⟨rfl, none⟩ | ⟨s, rfl, some⟩
    · simp [none]
    · simp [some]
  · simp [address, topics, data, signature]

end TransactionLog

/-! ## A transaction -/

namespace Transaction

variable {t : Transaction} {own : List (String × Json)}

/-- What a transaction is read from. -/
structure ReadFrom (t : Transaction) (own : List (String × Json)) : Prop where
  hash : own.lookup "hash" = some (.str t.hash)
  logs : (own.lookup "logs" = none ∧ t.logs = []) ∨
    ∃ entries, own.lookup "logs" = some (.arr entries) ∧
      List.Forall₂ (fun entry log => TransactionLog.ReadFrom log entry) entries t.logs
  extra : t.extra = own.filter fun (key, _) => key != "hash" && key != "logs"

theorem readFrom_of_ofJson? (h : ofJson? (.obj own) = some t) : t.ReadFrom own := by
  obtain ⟨hash, hHash, h⟩ := Option.bind_eq_some_iff.mp h
  have told : own.lookup "hash" = some (.str hash) := by
    obtain ⟨v, found, text⟩ := Option.bind_eq_some_iff.mp hHash
    cases v with
    | str s =>
      cases text
      exact found
    | _ => exact nomatch text
  cases found : own.lookup "logs" with
  | none =>
    simp only [found] at h
    cases h
    exact ⟨told, .inl ⟨found, rfl⟩, rfl⟩
  | some v =>
    simp only [found] at h
    obtain ⟨logs, hLogs, h⟩ := Option.bind_eq_some_iff.mp h
    cases h
    have decoded : Decoder.list TransactionLog.decoder (Reading.ofJson v) = .ok logs := by
      rw [Decoder.ofJson?] at hLogs
      cases read : Decoder.list TransactionLog.decoder (Reading.ofJson v) with
      | error e => exact nomatch read ▸ hLogs
      | ok _ =>
        rw [read] at hLogs
        cases hLogs
        rfl
    obtain ⟨entries, rfl, each⟩ := Decoder.list_ofJson decoded
    exact ⟨told, .inr ⟨entries, found, each.imp fun _ _ => TransactionLog.readFrom_of_decoder⟩, rfl⟩

/-- The fields that a transaction is told with. -/
def fields (t : Transaction) : List (String × Json) :=
  t.extra ++ [("hash", .str t.hash), ("logs", .arr (t.logs.map TransactionLog.toJson))]

/-- A transaction tells each field once. -/
theorem ReadFrom.nodup (h : t.ReadFrom own) (once : (own.map (·.1)).Nodup) :
    (t.fields.map (·.1)).Nodup := by
  have others : ∀ f ∈ t.extra, f.1 ≠ "hash" ∧ f.1 ≠ "logs" := by
    intro f mem
    rw [h.extra] at mem
    simpa using (List.mem_filter.mp mem).2
  rw [fields, List.map_append]
  refine List.nodup_append.mpr ⟨?_, by simp, ?_⟩
  · rw [h.extra]
    exact once.sublist (List.filter_sublist.map _)
  · rintro _ extra _ last rfl
    obtain ⟨f, mem, rfl⟩ := List.mem_map.mp extra
    have apart := others f mem
    simp [apart.1, apart.2] at last

/-- **Every field of a transaction but its logs is told with its value.** -/
theorem ReadFrom.get?_toJson (h : t.ReadFrom own) (once : (own.map (·.1)).Nodup) {key : String}
    {v : Json} (other : key ≠ "logs") (given : own.lookup key = some v) :
    t.toJson.get? key = some v := by
  show (object t.fields).get? key = some v
  rw [get?_object (h.nodup once)]
  refine lookup_eq_some_of_mem (h.nodup once) (List.mem_append.mpr ?_)
  by_cases hash : key = "hash"
  · subst hash
    cases h.hash.symm.trans given
    exact .inr List.mem_cons_self
  · left
    rw [h.extra]
    exact List.mem_filter.mpr ⟨mem_of_lookup_eq_some given, by simp [hash, other]⟩

theorem ReadFrom.get?_logs_toJson (h : t.ReadFrom own) (once : (own.map (·.1)).Nodup) :
    t.toJson.get? "logs" = some (.arr (t.logs.map TransactionLog.toJson)) := by
  show (object t.fields).get? "logs" = _
  rw [get?_object (h.nodup once)]
  exact lookup_eq_some_of_mem (h.nodup once)
    (List.mem_append_right _ (List.mem_cons_of_mem _ List.mem_cons_self))

/-- What a delivery with a given hash tells is read from its body. -/
theorem readFrom_of_ofDelivery {routing : Routing} {d : Delivery} {n : Notification} {body : Json}
    (parsed : parse? d.body = some body) (given : (body.get? "hash").any isGiven = true)
    (tells : Notification.ofDelivery routing d = .ok n) :
    ∃ own t, body = .obj own ∧ (own.map (·.1)).Nodup ∧ n.transaction = some t ∧ t.ReadFrom own := by
  rw [Notification.ofDelivery, parsed] at tells
  cases address : Notification.address? routing d.routingKey body with
  | none => simp only [address, reduceCtorEq] at tells
  | some a =>
    simp only [address] at tells
    obtain ⟨transaction, carried, made⟩ := Fallible.bind_eq_ok.mp tells
    cases made
    rw [Notification.transaction?, if_pos given] at carried
    cases read : ofJson? body with
    | none => simp only [read, reduceCtorEq] at carried
    | some t =>
      simp only [read] at carried
      cases carried
      cases body with
      | obj own => exact ⟨own, t, rfl, nodup_of_parse? parsed, rfl, readFrom_of_ofJson? read⟩
      | _ => exact nomatch given

end Transaction

/-! ## The main theorem -/

/-- **A body that is forwarded:** each of its fields is told with its value, and so are, of each of its
logs in order, those fields that are to be kept. -/
structure Forwards (kept : String → Json → Prop) (body tx : Json) : Prop where
  fields : ∀ key v, key ≠ "logs" → body.get? key = some v → tx.get? key = some v
  logs : ∀ v, body.get? "logs" = some v →
    ∃ entries told, v = .arr entries ∧ tx.get? "logs" = some (.arr told) ∧
      List.Forall₂ (fun entry log => ∀ key v, entry.get? key = some v → kept key v →
        log.get? key = some v) entries told

/-- The transaction of an update is told as it is. -/
theorem BalanceUpdate.get?_tx_toJson (u : BalanceUpdate) :
    u.toJson.get? "tx" = some (.orNull Transaction.toJson u.transaction) := by
  rw [toJson, get?_object (by simp)]
  rfl

section

variable {t : Transaction} {own : List (String × Json)}

/-- A transaction is forwarded with those fields of its logs that are known. -/
theorem Transaction.ReadFrom.forwards (h : t.ReadFrom own) (once : (own.map (·.1)).Nodup)
    {kept : String → Json → Prop}
    (known : ∀ entries, own.lookup "logs" = some (.arr entries) → ∀ entry ∈ entries, ∀ key v,
      entry.get? key = some v → kept key v → TransactionLog.Known key v) :
    Forwards kept (.obj own) t.toJson where
  fields := fun _ _ other held => h.get?_toJson once other held
  logs := by
    intro v held
    rcases h.logs with ⟨none, -⟩ | ⟨entries, found, each⟩
    · exact nomatch none.symm.trans held
    · cases found.symm.trans held
      refine ⟨entries, _, rfl, h.get?_logs_toJson once, List.forall₂_map_right_iff.mpr ?_⟩
      refine (List.forall₂_and_left _ _).mpr ⟨fun entry mem => mem, each⟩ |>.imp ?_
      rintro entry log ⟨mem, read⟩ key v given keep
      exact (read.get?_toJson_iff given).mpr (known entries held entry mem key v given keep)

/-- What is forwarded whole has logs with known fields only. -/
theorem Transaction.ReadFrom.known_of_forwards (h : t.ReadFrom own) (once : (own.map (·.1)).Nodup)
    (whole : Forwards (fun _ _ => True) (.obj own) t.toJson) {entries : List Json}
    (held : own.lookup "logs" = some (.arr entries)) {entry : Json} (mem : entry ∈ entries)
    {key : String} {v : Json} (given : entry.get? key = some v) : TransactionLog.Known key v := by
  obtain ⟨_, told, same, tells, forwarded⟩ := whole.logs _ held
  cases same
  cases (h.get?_logs_toJson once).symm.trans tells
  rcases h.logs with ⟨none, -⟩ | ⟨_, found, each⟩
  · exact nomatch none.symm.trans held
  · cases found.symm.trans held
    rw [List.forall₂_map_right_iff] at forwarded
    obtain ⟨log, read, tells⟩ := exists_common each forwarded mem
    exact (read.get?_toJson_iff given).mp (tells key v given trivial)

end

/-- **A transaction is forwarded but for what its logs are not read for.** For every delivery whose body
has a hash that is given, and that is handled: its fields are told with their values, and its logs in
their order, each with its address, topics, data and signature. So it is forwarded whole if its logs
have no other fields, and no signature that is `null`, and only then. -/
theorem Reconciler.forwarded_whole_iff {r : Reconciler} {d : Delivery} {w : World} {body : Json}
    {u : BalanceUpdate} (parsed : parse? d.body = some body)
    (given : (body.get? "hash").any isGiven = true) (done : (r.handle d w).1 = .ok (.updated u)) :
    ∃ tx, u.toJson.get? "tx" = some tx ∧ Forwards TransactionLog.Known body tx ∧
      (Forwards (fun _ _ => True) body tx ↔
        ∀ entries, body.get? "logs" = some (.arr entries) → ∀ entry ∈ entries, ∀ key v,
          entry.get? key = some v → TransactionLog.Known key v) := by
  obtain ⟨-, n, fresh, account, amounts, -, rfl⟩ := amounts_of_handle done
  obtain ⟨own, t, rfl, once, carried, read⟩ :=
    Transaction.readFrom_of_ofDelivery parsed given amounts.tells
  have tx : (r.told n fresh account).toJson.get? "tx" = some t.toJson := by
    rw [BalanceUpdate.get?_tx_toJson]
    show some (Json.orNull Transaction.toJson n.transaction) = _
    rw [carried]
    rfl
  refine ⟨t.toJson, tx, read.forwards once fun _ _ _ _ _ _ _ known => known, ?_, ?_⟩
  · intro whole entries held entry mem key v given
    exact read.known_of_forwards once whole held mem given
  · intro known
    exact read.forwards once fun entries held entry mem key v given _ =>
      known entries held entry mem key v given

namespace LostField

/-- A chain where every balance is 32. -/
def chain : Chain := ⟨fun _ => .ok 32, fun _ _ => .ok "0x"⟩

/-- No call fails. -/
def reconciler : Reconciler := ⟨⟨"app"⟩, .transfer, chain, .none, 0⟩

/-- A world with one account. -/
def world : World :=
  ⟨.memory .empty, .memory (AccountMap.empty.save (.register "0xa1")), ⟨16, [], 0, [some 0]⟩⟩

/-- A transaction of the account with one log, which says at the end what else there is to say. -/
def deliveryOf (more : String) : Delivery where
  routingKey := "app_transaction.0xa1"
  body := ["\x7b\"hash\":\"0x9\",\"blockNumber\":10,\"logs\":[\x7b\"address\":\"0xc3\"", more,
    "\x7d]\x7d"].flatMap Text.Utf8.encode

/-- The body of such a delivery. -/
def bodyOf (entry : Json) : Json :=
  .obj [("blockNumber", .num (.integer 10)), ("hash", .str "0x9"), ("logs", .arr [entry])]

/-- What is told after such a delivery. -/
def updateOf (data : String) : BalanceUpdate :=
  ⟨"0xa1", "32", [], some ⟨"0x9", [⟨"0xc3", [], data, none⟩], [("blockNumber", .num (.integer 10))]⟩⟩

/-- **A field of a log is lost:** its index is not told. -/
theorem log_index_is_lost :
    ∃ body u tx, parse? (deliveryOf ",\"logIndex\":0").body = some body ∧
      (body.get? "hash").any isGiven = true ∧
      (reconciler.handle (deliveryOf ",\"logIndex\":0") world).1 = .ok (.updated u) ∧
      u.toJson.get? "tx" = some tx ∧ ¬Forwards (fun _ _ => True) body tx := by
  refine ⟨bodyOf (.obj [("address", .str "0xc3"), ("logIndex", .num (.integer 0))]), updateOf "", _,
    by decide +kernel, rfl, by decide +kernel, rfl, ?_⟩
  intro whole
  obtain ⟨_, _, same, tells, each⟩ := whole.logs _ rfl
  cases same
  cases tells
  cases each with
  | cons first _ => exact nomatch first "logIndex" _ rfl trivial

/-- A transaction is forwarded whole whose log has known fields only. -/
theorem known_log_is_forwarded :
    ∃ tx, (updateOf "0x7").toJson.get? "tx" = some tx ∧
      Forwards (fun _ _ => True)
        (bodyOf (.obj [("address", .str "0xc3"), ("data", .str "0x7")])) tx := by
  have parsed : parse? (deliveryOf ",\"data\":\"0x7\"").body =
      some (bodyOf (.obj [("address", .str "0xc3"), ("data", .str "0x7")])) := by
    decide +kernel
  have handled : (reconciler.handle (deliveryOf ",\"data\":\"0x7\"") world).1 =
      .ok (.updated (updateOf "0x7")) := by
    decide +kernel
  obtain ⟨tx, told, -, whole⟩ := Reconciler.forwarded_whole_iff parsed rfl handled
  refine ⟨tx, told, whole.mpr ?_⟩
  rintro _ ⟨⟩ entry mem key v given
  cases List.mem_singleton.mp mem
  have fields := mem_of_lookup_eq_some given
  simp only [List.mem_cons, Prod.mk.injEq, List.not_mem_nil, or_false] at fields
  rcases fields with ⟨address, -⟩ | ⟨data, -⟩
  · exact .inl address
  · exact .inr (.inr (.inl data))

end LostField

end TransferLedger
