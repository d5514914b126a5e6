/-
# TransferLedger.Proofs.Reconcile.Balances -- what is stored is what the chain says

A delivery that ends well leaves an account whose native balance was read from the chain. Each token
that the delivery concerns has one entry with the balance read last, or none if that is zero, and the
other entries stand in front of these as they were. The balance of a token is what its contract has
returned for the call that asks for it.
-/

import TransferLedger.Proofs.Chain.Token
import TransferLedger.Proofs.Reconcile.Concerned
import TransferLedger.Proofs.Reconcile.Handling

namespace TransferLedger

open TransferLedger.Text

/-- The last of some tokens that is the given one, whatever its letter case. -/
def LastSpelling (tokens : List String) (token spelling : String) : Prop :=
  ∃ front back, tokens = front ++ spelling :: back ∧ sameIgnoringCase spelling token = true ∧
    ∀ s ∈ back, sameIgnoringCase s token = false

/-- Whether a token balance is of the token of an address, whatever its letter case. -/
def TokenBalance.isOf (t : TokenBalance) (token : String) : Bool := sameIgnoringCase t.address token

/-- **An account shows the balance of a token:** in one entry, or in none if it is zero. -/
def Account.Shows (account : Account) (token : String) (balance : Nat) : Prop :=
  let entries := account.tokens.filter (·.isOf token)
  if balance = 0 then entries = []
  else ∃ entry, entries = [entry] ∧ entry.balance = toString balance

/-- **What a delivery leaves of an account** when it has read the balances of some tokens. -/
structure Reconciled (chain : Chain) (address : String) (tokens : List String)
    (account stored : Account) : Prop where
  /-- The native balance is the one that the chain told. -/
  native : ∃ v, chain.balance address = .ok v ∧ stored.balance = toString v.toNat
  /-- Each token is shown with the balance that its contract has returned, under its last spelling. -/
  shows : ∀ token ∈ tokens, ∃ spelling text balance, LastSpelling tokens token spelling ∧
    chain.call spelling (balanceQuestion address) = .ok text ∧ Returns text balance ∧
    stored.Shows token balance
  /-- All other entries stay as they were, in front of the refreshed ones. -/
  others : ∃ refreshed,
    stored.tokens = account.tokens.filter (fun t => !tokens.any t.isOf) ++ refreshed ∧
      ∀ t ∈ refreshed, tokens.any t.isOf = true

/-! ## Tokens and what was read of them -/

theorem Word.toDecimal_eq (w : Word) : w.toDecimal = toString w.toNat := rfl

theorem exists_lastSpelling {tokens : List String} {token : String}
    (h : ∃ s ∈ tokens, sameIgnoringCase s token = true) :
    ∃ spelling, LastSpelling tokens token spelling := by
  induction tokens with
  | nil =>
    obtain ⟨s, hs, -⟩ := h
    exact absurd hs List.not_mem_nil
  | cons first rest ih =>
    by_cases again : ∃ s ∈ rest, sameIgnoringCase s token = true
    · obtain ⟨spelling, front, back, split, same, last⟩ := ih again
      exact ⟨spelling, first :: front, back, by rw [split, List.cons_append], same, last⟩
    · obtain ⟨s, hs, same⟩ := h
      rcases List.mem_cons.mp hs with rfl | later
      · refine ⟨s, [], rest, rfl, same, fun t ht => ?_⟩
        rw [← Bool.not_eq_true]
        exact fun other => again ⟨t, ht, other⟩
      · exact absurd ⟨s, later, same⟩ again

theorem isOf_eq_sameToken {b : TokenBalance} {token : String}
    (h : sameIgnoringCase b.address token = true) (t : TokenBalance) :
    t.isOf token = t.sameToken b := by
  rw [TokenBalance.isOf, TokenBalance.sameToken, sameIgnoringCase, sameIgnoringCase,
    sameIgnoringCase_iff.mp h]

/-- Balances that were read of some tokens are those of these tokens. -/
theorem any_sameToken {chain : Chain} {owner : String} {tokens : List String}
    {bs : List TokenBalance}
    (read : List.Forall₂ (fun token b => (readToken chain owner token).answer = .ok b) tokens bs)
    (t : TokenBalance) : bs.any t.sameToken = tokens.any t.isOf := by
  induction read with
  | nil => rfl
  | cons first _ ih =>
    obtain ⟨address, -⟩ := readToken_eq_ok first
    rw [List.any_cons, List.any_cons, ih, TokenBalance.sameToken, TokenBalance.isOf, address,
      sameIgnoringCase, sameIgnoringCase, lower_lower]

/-- **A token that was read last** is what a refresh leaves of it. -/
theorem Account.shows_of_merge {chain : Chain} {owner : String} {tokens : List String}
    {fresh : Balances} (read : List.Forall₂
      (fun token b => (readToken chain owner token).answer = .ok b) tokens fresh.tokens)
    {token spelling : String} (last : LastSpelling tokens token spelling) (account : Account)
    (now : Int64) :
    ∃ balance, (chain.tokenBalance spelling owner).answer = .ok balance ∧
      (account.merge fresh now).Shows token balance.toNat := by
  obtain ⟨front, back, rfl, same, later⟩ := last
  have rest := List.forall₂_drop front.length read
  rw [List.drop_left, List.forall₂_cons_left_iff] at rest
  obtain ⟨b, after, first, others, shape⟩ := rest
  have split : fresh.tokens = fresh.tokens.take front.length ++ b :: after := by
    rw [← shape, List.take_append_drop]
  obtain ⟨address, balance, asked, written⟩ := readToken_eq_ok first
  have own : sameIgnoringCase b.address token = true := by
    rw [address, sameIgnoringCase_iff, lower_lower, ← sameIgnoringCase_iff]
    exact same
  -- What was read after it is of other tokens.
  have apart : ∀ s ∈ after, s.sameToken b = false := by
    have none : after.any b.sameToken = false := by
      rw [any_sameToken others, List.any_eq_false]
      intro s hs again
      rw [TokenBalance.isOf, sameIgnoringCase_iff] at again
      have other := later s hs
      rw [sameIgnoringCase, ← again, sameIgnoringCase_iff.mp own, beq_self_eq_true] at other
      cases other
    intro s hs
    rw [TokenBalance.sameToken_comm, ← Bool.not_eq_true]
    exact List.any_eq_false.mp none s hs
  have entries : (account.merge fresh now).tokens.filter (·.isOf token) =
      if b.isZero then [] else [b] := by
    rw [← Account.merge_of_last split apart account now]
    exact List.filter_congr fun t _ => isOf_eq_sameToken own t
  refine ⟨balance, asked, ?_⟩
  rw [isZero_of_toDecimal written] at entries
  unfold Account.Shows
  have number : balance = 0 ↔ balance.toNat = 0 := BitVec.toNat_eq
  by_cases zero : balance = 0
  · rw [if_pos (decide_eq_true zero)] at entries
    rw [if_pos (number.mp zero)]
    exact entries
  · rw [if_neg (by simpa using zero)] at entries
    rw [if_neg (zero ∘ number.mpr)]
    exact ⟨b, entries, written.trans balance.toDecimal_eq⟩

/-! ## The main theorem -/

theorem Account.mem_of_mem_lasting {fresh : List TokenBalance} {t : TokenBalance}
    (h : t ∈ lasting fresh) : t ∈ fresh := by
  induction fresh with
  | nil => exact h
  | cons first rest ih =>
    rw [lasting] at h
    split at h
    case isTrue => exact List.mem_cons_of_mem first (ih h)
    case isFalse =>
      rcases List.mem_cons.mp h with rfl | later
      · exact List.mem_cons_self
      · exact List.mem_cons_of_mem first (ih later)

/-- What is stored of an account that was refreshed with balances that were read. -/
theorem reconciled_of_read {chain : Chain} {address : String} {tokens : List String} {native : Word}
    {fresh : Balances} {digits : List Char} (low : lower address = address)
    (shape : address.toList = '0' :: 'x' :: digits) (read : List.Forall₂
      (fun token b => (readToken chain address token).answer = .ok b) tokens fresh.tokens)
    (balance : chain.balance address = .ok native) (written : fresh.balance = native.toDecimal)
    (account : Account) (now : Int64) :
    Reconciled chain address tokens account (account.merge fresh now) where
  native := ⟨native, balance, written.trans native.toDecimal_eq⟩
  shows := by
    intro token ht
    obtain ⟨spelling, last⟩ := exists_lastSpelling ⟨token, ht, sameIgnoringCase_iff.mpr rfl⟩
    obtain ⟨value, asked, shows⟩ := Account.shows_of_merge read last account now
    obtain ⟨text, answered, returns⟩ := returns_of_tokenBalance low shape asked
    exact ⟨spelling, text, value.toNat, last, answered, returns, shows⟩
  others := by
    have outside : account.tokens.filter (fun t => !fresh.tokens.any t.sameToken) =
        account.tokens.filter (fun t => !tokens.any t.isOf) :=
      List.filter_congr fun t _ => by rw [any_sameToken read]
    refine ⟨Account.lasting fresh.tokens, by rw [Account.tokens_merge, outside], fun t ht => ?_⟩
    rw [← any_sameToken read, List.any_eq_true]
    exact ⟨t, Account.mem_of_mem_lasting ht, t.sameToken_self⟩

/-- A store gives an account back with its balances as they were. -/
theorem Reconciled.kept {chain : Chain} {address : String} {tokens : List String}
    {account stored : Account} (h : Reconciled chain address tokens account stored)
    (store : AccountStore) : Reconciled chain address tokens account (store.kept stored) := by
  cases store with
  | memory => exact h
  | table => exact ⟨h.native, h.shows, h.others⟩

/-- An address has its mark in lower case if it is itself in lower case. -/
theorem exists_digits_lower {address : String} (h : isHexAddress address = true) :
    ∃ digits, (lower address).toList = '0' :: 'x' :: digits := by
  rw [isHexAddress, Option.any_eq_true] at h
  obtain ⟨_, marked, -⟩ := h
  rw [toList_lower]
  unfold afterHexMark? at marked
  split at marked
  case h_1 rest shape => exact ⟨rest.map Char.toLower, by rw [shape]; rfl⟩
  case h_2 rest shape => exact ⟨rest.map Char.toLower, by rw [shape]; rfl⟩
  case h_3 => cases marked

/-- **A delivery that ends well stores what the chain says,** for every log store that was given rows
of logs, either account store, either way of negation, every chain and every registered address. -/
theorem Reconciler.stored_balances_are_read {r : Reconciler} {w : World} {d : Delivery}
    {n : Notification} {account : Account} {u : BalanceUpdate} {batches : List (List LogRow)}
    (transfers : r.compiler.schema = .transfer) (filled : w.logs.Filled batches)
    (rows : OfLogs batches) (tells : Notification.ofDelivery r.routing d = .ok n)
    (registered : w.accounts.get? n.address = .ok (some account))
    (hex : isHexAddress account.address = true) (updated : (r.handle d w).1 = .ok (.updated u)) :
    ∃ owner stored tokens, IsScalar account.address owner.toNat ∧
      (r.handle d w).2.1.accounts.get? n.address = .ok (some stored) ∧
      Concerns batches owner n.transaction tokens ∧
      Reconciled r.chain n.address tokens account stored := by
  obtain ⟨safe, n', fresh, account', amounts, found, -⟩ := amounts_of_handle updated
  obtain rfl : n' = n := Except.ok.inj (amounts.tells.symm.trans tells)
  obtain rfl : account' = account :=
    Option.some.inj (Except.ok.inj (found.symm.trans registered))
  have low : lower n'.address = n'.address := Notification.lower_address tells
  have own : lower account'.address = lower n'.address :=
    AccountStore.lower_address_of_get? registered
  obtain ⟨digits, shape⟩ := exists_digits_lower hex
  obtain ⟨owner, number, topic⟩ := ofScalar?_topicOfAddress hex
  rw [own, low] at shape topic
  obtain ⟨tokens, native, moved, known, read, balance, written⟩ := readBalances_eq_ok amounts.reads
  -- The tokens that were read are those that the delivery concerns.
  have scope : Concerns batches owner n'.transaction tokens := by
    cases transaction : n'.transaction with
    | some t =>
      rw [moved t transaction]
      exact concerns_tokens batches owner t
    | none =>
      have answer := known transaction
      rw [knownTokens_eq transfers filled rows topic] at answer
      rw [← Except.ok.inj (unlessFaulty_eq_ok.mp (Fallible.mapError_eq_ok.mp answer)).2]
      exact concerns_touchedTokens batches owner
  have saved : lower n'.address = lower (account'.merge fresh r.now).address := own.symm
  obtain ⟨-, accounts, -⟩ := handle_of_amounts safe amounts registered
  refine ⟨owner, w.accounts.kept (account'.merge fresh r.now), tokens,
    Word.ofScalar?_eq_some_iff.mp number, ?_, scope, ?_⟩
  · rw [accounts]
    exact AccountStore.get?_save saved w.accounts
  · exact (reconciled_of_read low shape read balance written account' r.now).kept w.accounts

namespace Refreshed

/-- The address of an account, in mixed letter case. -/
def holder : String := "0x00000000000000000000000000000000000000A1"

/-- The log of a transfer to the account. -/
def receipt (block : UInt64) (token : String) : RawLog where
  blockNumber := block
  txIndex := 0
  logIndex := 0
  removed := false
  address := token
  topics := [EventSchema.transferTopic, "0x5", "0xA1"]
  data := ""

/-- The row of such a log. -/
def received (block : UInt64) (token : String) : LogRow where
  blockNumber := block
  txIndex := 0
  logIndex := 0
  removed := false
  signature := EventSchema.transferTopic
  address := token
  values := [EventSchema.transferTopic, "0x5", "0xA1"]
  dataValuesStart := none
  args := [⟨0, [5], 0⟩, ⟨2, [161], 1⟩]

/-- Two rows, one of which is put in twice. -/
def batches : List (List LogRow) := [[received 9 "0xd4"], [received 7 "0xc3", received 9 "0xd4"]]

/-- A chain where the account holds one token and no others. -/
def chain : Chain where
  balance _ := .ok 32
  call contract _ :=
    .ok (if sameIgnoringCase contract "0xc3" then
        "0x0000000000000000000000000000000000000000000000000000000000000020"
      else "0x0000000000000000000000000000000000000000000000000000000000000000")

def reconciler : Reconciler := ⟨⟨"app"⟩, ⟨.transfer, .fieldWise⟩, chain, .none, 0⟩

/-- Two tokens that the account was told to hold. -/
def old : TokenBalance := ⟨"D", "18", "0xD4", "1"⟩

def older : TokenBalance := ⟨"E", "18", "0xe5", "2"⟩

/-- The token that it holds. -/
def held : TokenBalance := ⟨"", "32", "0xc3", "32"⟩

def account : Account := ⟨holder, "0", [old, older], true, none⟩

/-- The account after a refresh that leaves some tokens. -/
def holding (tokens : List TokenBalance) : Account := ⟨holder, "32", tokens, true, some 0⟩

def world : World where
  logs := batches.foldl LogStore.insert (.tables .empty)
  accounts := .memory (AccountMap.empty.save account)
  bus := ⟨16, [], 0, []⟩

/-- The message that the account was registered. -/
def registration : Delivery where
  routingKey := "app_user.created"
  body := ["\x7b\"address\":\"", holder, "\"\x7d"].flatMap Utf8.encode

/-- A transaction with three transfers, of which one tells its signature and two spell their contract
in two ways, and with another log of a token that it does not move. -/
def transaction : Transaction :=
  ⟨"0x9", [⟨"0xC3", [EventSchema.transferTopic], "", none⟩, ⟨"0xd4", ["0x8c"], "", none⟩,
    ⟨"0xe5", [], "", some "0xDDF252AD1BE2C89B69C2B068FC378DAA952BA7F163C4A11628F55A4DF523B3EF"⟩,
    ⟨"0xc3", [EventSchema.transferTopic], "", none⟩], []⟩

/-- The message of a transaction. -/
def delivery (t : Transaction) : Delivery where
  routingKey := "app_transaction." ++ holder
  body := Utf8.encode t.toJson.render

theorem body_delivery (t : Transaction) : (delivery t).body = Utf8.encode t.toJson.render := rfl

theorem ofLogs_batches : OfLogs batches := by
  have receipts : LogRow.ofLog (receipt 7 "0xC3") = .ok (received 7 "0xc3") ∧
      LogRow.ofLog (receipt 9 "0xD4") = .ok (received 9 "0xd4") := by decide +kernel
  intro row hr
  simp only [batches, List.flatten_cons, List.flatten_nil, List.append_nil, List.cons_append,
    List.nil_append, List.mem_cons, List.not_mem_nil, or_false] at hr
  rcases hr with rfl | rfl | rfl
  · exact ⟨by decide, _, receipts.2⟩
  · exact ⟨by decide, _, receipts.1⟩
  · exact ⟨by decide, _, receipts.2⟩

theorem filled_world : world.logs.Filled batches := .inr rfl

theorem get?_save_holder (store : AccountMap) {a : Account} (own : a.address = holder) :
    ((AccountStore.memory store).save a).get? (lower holder) = .ok (some a) := by
  have same : lower (lower holder) = lower a.address := by rw [own, lower_lower]
  exact AccountStore.get?_save same (.memory store)

theorem registered_account : world.accounts.get? (lower holder) = .ok (some account) :=
  get?_save_holder .empty rfl

theorem number_holder : Word.ofScalar? holder = some 161 := by decide +kernel

theorem isHexAddress_holder : isHexAddress account.address = true := by decide +kernel

/-- What the registration reads: the tokens of the stored rows. -/
theorem amounts_registration : touchedTokens batches 161 = ["0xc3", "0xd4"] ∧
    reconciler.Amounts world registration ⟨lower holder, none⟩
      ⟨"32", [held, ⟨"", "0", "0xd4", "0"⟩]⟩ := by
  have touched : touchedTokens batches 161 = ["0xc3", "0xd4"] := by decide +kernel
  obtain ⟨owner, number, topic⟩ := ofScalar?_topicOfAddress isHexAddress_holder
  obtain rfl : owner = 161 := Option.some.inj (number.symm.trans number_holder)
  have known : knownTokens reconciler.compiler reconciler.faults world (lower holder) = _ :=
    knownTokens_eq rfl filled_world ofLogs_batches topic
  rw [touched] at known
  refine ⟨touched, by decide +kernel, ?_⟩
  rw [readBalances]
  simp only [known]
  decide +kernel

/-- What the transaction reads: the tokens that its logs move. -/
theorem amounts_transaction : transaction.tokens = ["0xC3", "0xe5", "0xc3"] ∧
    reconciler.Amounts world (delivery transaction) ⟨lower holder, some transaction⟩
      ⟨"32", [held, ⟨"", "0", "0xe5", "0"⟩, held]⟩ := by
  have moved : transaction.tokens = ["0xC3", "0xe5", "0xc3"] := by decide +kernel
  have whole : transaction.toJson.isKept = true := by decide +kernel
  refine ⟨moved, ?tells, ?reads⟩
  case tells =>
    rw [Notification.ofDelivery, Json.parse?, body_delivery, Json.Reading.ofBytes_render whole]
    decide +kernel
  case reads =>
    rw [readBalances]
    simp only [moved]
    decide +kernel

/-- **Both deliveries store what the contracts have returned.** The registration drops the token whose
balance is zero; the transaction reads neither that one, which its logs do not move, nor any stored
row. -/
theorem deliveries_store_what_was_returned :
    ((reconciler.handle registration world).2.1.accounts.get? (lower holder) =
        .ok (some (holding [older, held])) ∧
      Concerns batches 161 none ["0xc3", "0xd4"] ∧
      Reconciled chain (lower holder) ["0xc3", "0xd4"] account (holding [older, held])) ∧
    (reconciler.handle (delivery transaction) world).2.1.accounts.get? (lower holder) =
        .ok (some (holding [old, held])) ∧
      Concerns batches 161 (some transaction) ["0xC3", "0xe5", "0xc3"] ∧
      Reconciled chain (lower holder) ["0xC3", "0xe5", "0xc3"] account (holding [old, held]) := by
  have safe : reconciler.Unfailing := ⟨rfl, rfl, rfl⟩
  -- What either delivery stores, from what it tells and reads and which tokens it concerns.
  have stored : ∀ {d : Delivery} {t : Option Transaction} {tokens : List String} {fresh : Balances}
      {after : Account}, reconciler.Amounts world d ⟨lower holder, t⟩ fresh →
      Concerns batches 161 t tokens → account.merge fresh 0 = after →
      (reconciler.handle d world).2.1.accounts.get? (lower holder) = .ok (some after) ∧
        Concerns batches 161 t tokens ∧ Reconciled chain (lower holder) tokens account after := by
    intro d t tokens fresh after amounts concerns merged
    obtain ⟨updated, accounts, -⟩ := Reconciler.handle_of_amounts safe amounts registered_account
    obtain ⟨owner, found, read, number, told, scope, reconciled⟩ :=
      Reconciler.stored_balances_are_read rfl filled_world ofLogs_batches amounts.tells
        registered_account isHexAddress_holder updated
    obtain rfl : owner = 161 :=
      Option.some.inj ((Word.ofScalar?_eq_some_iff.mpr number).symm.trans number_holder)
    obtain rfl := scope.unique concerns
    have kept : (reconciler.handle d world).2.1.accounts.get? (lower holder) = .ok (some after) := by
      rw [accounts, ← merged]
      exact get?_save_holder (AccountMap.empty.save account) rfl
    obtain rfl : found = after := Option.some.inj (Except.ok.inj (told.symm.trans kept))
    exact ⟨kept, scope, reconciled⟩
  obtain ⟨touched, registered⟩ := amounts_registration
  obtain ⟨moved, paid⟩ := amounts_transaction
  have held_rows : Concerns batches 161 none ["0xc3", "0xd4"] := by
    rw [← touched]
    exact concerns_touchedTokens batches 161
  have moved_logs : Concerns batches 161 (some transaction) ["0xC3", "0xe5", "0xc3"] := by
    rw [← moved]
    exact concerns_tokens batches 161 transaction
  exact ⟨stored registered held_rows (by decide +kernel), stored paid moved_logs (by decide +kernel)⟩

end Refreshed

end TransferLedger
