/-
# TransferLedger.Proofs.Account.Stored -- a saved account comes back

Either account store gives back the account that was saved last under an address, up to the spelling
of the address in the table. Its tokens go through document text there and come back as they were.
-/

import TransferLedger.Account.Store
import TransferLedger.Proofs.Fallible
import TransferLedger.Proofs.Json.Written

namespace TransferLedger

open TransferLedger.Text

/-! ## Tokens as document text -/

namespace TokenBalance

theorem toJson_eq (t : TokenBalance) :
    t.toJson = .obj [("address", .str t.address), ("balance", .str t.balance),
      ("decimals", .str t.decimals), ("symbol", .str t.symbol)] := by
  rfl

theorem isKept_toJson (t : TokenBalance) : t.toJson.isKept = true := by
  rw [toJson_eq]
  rfl

theorem decoder_toJson (t : TokenBalance) : decoder (Json.Reading.ofJson t.toJson) = .ok t := by
  rw [toJson_eq]
  rfl

/-- **Written token balances are read back.** -/
theorem ofText?_listToJson (tokens : List TokenBalance) :
    Json.Decoder.ofText? (Json.Decoder.list decoder) (Utf8.encode (listToJson tokens).render) =
      some tokens :=
  Json.Decoder.ofText?_render isKept_toJson decoder_toJson tokens

end TokenBalance

/-! ## The table of accounts -/

namespace AccountLine

/-- A line holds its account under the address in lower case. -/
theorem toAccount_ofAccount (account : Account) :
    (ofAccount account).toAccount = .ok { account with address := lower account.address } := by
  simp only [toAccount, ofAccount, TokenBalance.ofText?_listToJson]

end AccountLine

namespace AccountTable

theorem lower_address_of_get? {table : AccountTable} {address : String} {account : Account}
    (h : table.get? address = .ok (some account)) : lower account.address = lower address := by
  rw [get?] at h
  cases found : table.lines.find? (·.address == lower address) with
  | none => simp [found] at h
  | some line =>
    have key : line.address = lower address := by simpa using List.find?_some found
    simp only [found, AccountLine.toAccount] at h
    split at h
    case h_1 tokens _ =>
      obtain rfl : (⟨line.address, line.balance, tokens, line.isActive, line.updatedAt⟩ : Account) =
          account := Option.some.inj (Except.ok.inj h)
      show lower line.address = lower address
      rw [key, lower_lower]
    case h_2 => exact nomatch h

/-- The lines with one line put in the place of those of its address. -/
def replaced (line : AccountLine) (lines : List AccountLine) : List AccountLine :=
  lines.map fun l => if l.address = line.address then line else l

theorem save_eq (table : AccountTable) (account : Account) :
    (table.save account).lines =
      if table.lines.any (·.address == lower account.address) then
        replaced (AccountLine.ofAccount account) table.lines
      else table.lines ++ [AccountLine.ofAccount account] := by
  unfold save
  simp only [replaced]
  split <;> split <;> simp_all [AccountLine.ofAccount]

/-- Putting a line in keeps the address of every line. -/
theorem address_replacement (line l : AccountLine) :
    (if l.address = line.address then line else l).address = l.address := by
  split
  case isTrue h => exact h.symm
  case isFalse => rfl

theorem find?_replaced (line : AccountLine) (lines : List AccountLine) (key : String) :
    (replaced line lines).find? (·.address == key) =
      (lines.find? (·.address == key)).map fun l => if l.address = line.address then line else l := by
  rw [replaced, List.find?_map]
  simp only [Function.comp_def, address_replacement]

theorem any_replaced (line : AccountLine) (lines : List AccountLine) (key : String) :
    (replaced line lines).any (·.address == key) = lines.any (·.address == key) := by
  rw [replaced, List.any_map]
  simp only [Function.comp_def, address_replacement]

theorem replaced_of_fresh {line : AccountLine} {lines : List AccountLine}
    (h : ∀ l ∈ lines, l.address ≠ line.address) : replaced line lines = lines := by
  rw [replaced]
  calc lines.map (fun l => if l.address = line.address then line else l)
      = lines.map id := List.map_congr_left fun l hl => if_neg (h l hl)
    _ = lines := List.map_id lines

theorem get?_save {account : Account} {address : String} (h : lower address = lower account.address)
    (table : AccountTable) :
    (table.save account).get? address =
      .ok (some { account with address := lower account.address }) := by
  have found : (table.save account).lines.find? (·.address == lower account.address) =
      some (AccountLine.ofAccount account) := by
    rw [save_eq]
    split
    case isTrue held =>
      rw [find?_replaced]
      obtain ⟨l, hl⟩ := Option.isSome_iff_exists.mp (List.find?_isSome.mpr (List.any_eq_true.mp held))
      have key : l.address = lower account.address := by simpa using List.find?_some hl
      rw [hl, Option.map_some, if_pos (by rw [key]; rfl)]
    case isFalse fresh =>
      have none : table.lines.find? (·.address == lower account.address) = none := by
        simpa using fresh
      rw [List.find?_append, none]
      simp [AccountLine.ofAccount]
  rw [get?, h, found]
  simp only [AccountLine.toAccount_ofAccount]
  rfl

theorem get?_save_of_ne {account : Account} {address : String}
    (h : lower address ≠ lower account.address) (table : AccountTable) :
    (table.save account).get? address = table.get? address := by
  have found : (table.save account).lines.find? (·.address == lower address) =
      table.lines.find? (·.address == lower address) := by
    rw [save_eq]
    split
    case isTrue held =>
      rw [find?_replaced]
      cases hl : table.lines.find? (·.address == lower address) with
      | none => rfl
      | some l =>
        have key : l.address = lower address := by simpa using List.find?_some hl
        have other : l.address ≠ (AccountLine.ofAccount account).address := by rw [key]; exact h
        rw [Option.map_some, if_neg other]
    case isFalse fresh =>
      have new : ¬lower account.address = lower address := fun e => h e.symm
      rw [List.find?_append]
      simp [AccountLine.ofAccount, new]
  rw [get?, found]
  rfl

theorem ext {s t : AccountTable} (h : s.lines = t.lines) : s = t := by
  cases s
  cases t
  exact congrArg AccountTable.mk h

/-- Of two lines of one address that are put in the later one stays. -/
theorem replaced_replaced {first second : AccountLine} (same : first.address = second.address)
    (lines : List AccountLine) :
    replaced second (replaced first lines) = replaced second lines := by
  rw [replaced, replaced, List.map_map]
  apply List.map_congr_left
  intro l _
  by_cases key : l.address = second.address
  · simp [same, key]
  · simp [same, key]

/-- Of two saves under one address the later one counts. -/
theorem save_save {a b : Account} (h : lower a.address = lower b.address) (table : AccountTable) :
    (table.save a).save b = table.save b := by
  apply ext
  rw [save_eq, save_eq _ b, save_eq, h]
  have same : (AccountLine.ofAccount a).address = (AccountLine.ofAccount b).address := h
  by_cases held : table.lines.any (·.address == lower b.address) = true
  · rw [if_pos held, if_pos held, any_replaced, if_pos held, replaced_replaced same]
  · -- the first save appends a line, and the second one finds that line alone
    have fresh : ∀ l ∈ table.lines, l.address ≠ (AccountLine.ofAccount b).address := by
      intro l hl key
      exact held (List.any_eq_true.mpr ⟨l, hl, by simpa [AccountLine.ofAccount] using key⟩)
    have now : (table.lines ++ [AccountLine.ofAccount a]).any (·.address == lower b.address) =
        true := by
      simp [AccountLine.ofAccount, h]
    rw [if_neg held, if_neg held, if_pos now, replaced, List.map_append, ← replaced,
      replaced_of_fresh fresh, List.map_cons, if_pos same]
    rfl

end AccountTable

/-! ## The map of accounts -/

namespace AccountMap

theorem lower_address_of_get? {store : AccountMap} {address : String} {account : Account}
    (h : store.get? address = some account) : lower account.address = lower address := by
  obtain ⟨front, back, held, -⟩ := List.lookup_eq_some_iff.mp h
  exact (store.keyed (lower address, account) (by rw [held]; simp)).symm

theorem get?_save {account : Account} {address : String} (h : lower address = lower account.address)
    (store : AccountMap) : (store.save account).get? address = some account := by
  rw [get?, h]
  simp [save]

theorem lookup_filter_ne {key other : String} (h : key ≠ other) (accounts : List (String × Account)) :
    (accounts.filter (·.1 != other)).lookup key = accounts.lookup key := by
  induction accounts with
  | nil => rfl
  | cons entry rest ih =>
    obtain ⟨k, account⟩ := entry
    by_cases same : k = other
    · have apart : (key == k) = false := by simpa [same] using h
      rw [List.filter_cons_of_neg (by simp [same]), ih, List.lookup_cons, apart]
    · rw [List.filter_cons_of_pos (by simpa using same), List.lookup_cons, List.lookup_cons, ih]

theorem get?_save_of_ne {account : Account} {address : String}
    (h : lower address ≠ lower account.address) (store : AccountMap) :
    (store.save account).get? address = store.get? address := by
  have apart : (lower address == lower account.address) = false := by simpa using h
  rw [get?, save]
  simp only [List.lookup_cons, apart]
  exact lookup_filter_ne h store.accounts

/-- Of two saves under one address the later one counts. -/
theorem save_save {a b : Account} (h : lower a.address = lower b.address) (store : AccountMap) :
    (store.save a).save b = store.save b := by
  simp [save, h, List.filter_filter]

end AccountMap

/-! ## Either store -/

namespace AccountStore

/-- A saved account as the store gives it back. -/
def kept : AccountStore → Account → Account
  | memory _, account => account
  | table _, account => { account with address := lower account.address }

@[simp] theorem lower_address_kept (store : AccountStore) (account : Account) :
    lower (store.kept account).address = lower account.address := by
  cases store with
  | memory => rfl
  | table => exact lower_lower account.address

theorem kept_save (store : AccountStore) (a b : Account) : (store.save a).kept b = store.kept b := by
  cases store <;> rfl

/-- **An account is found as it was saved last.** -/
theorem get?_save {account : Account} {address : String} (h : lower address = lower account.address)
    (store : AccountStore) :
    (store.save account).get? address = .ok (some (store.kept account)) := by
  cases store with
  | memory s => exact congrArg Except.ok (AccountMap.get?_save h s)
  | table t =>
    show ((t.save account).get? address).mapError _ = _
    rw [AccountTable.get?_save h]
    rfl

/-- A save changes no other account. -/
theorem get?_save_of_ne {account : Account} {address : String}
    (h : lower address ≠ lower account.address) (store : AccountStore) :
    (store.save account).get? address = store.get? address := by
  cases store with
  | memory s => exact congrArg Except.ok (AccountMap.get?_save_of_ne h s)
  | table t => exact congrArg (Except.mapError _) (AccountTable.get?_save_of_ne h t)

/-- Of two saves under one address the later one counts. -/
theorem save_save {a b : Account} (h : lower a.address = lower b.address) (store : AccountStore) :
    (store.save a).save b = store.save b := by
  cases store with
  | memory s => exact congrArg memory (AccountMap.save_save h s)
  | table t => exact congrArg table (AccountTable.save_save h t)

/-- An account is found under its own address. -/
theorem lower_address_of_get? {store : AccountStore} {address : String} {account : Account}
    (h : store.get? address = .ok (some account)) : lower account.address = lower address := by
  cases store with
  | memory s => exact AccountMap.lower_address_of_get? (Except.ok.inj h)
  | table t => exact AccountTable.lower_address_of_get? (Fallible.mapError_eq_ok.mp h)

/-- Only the letter case of an address is passed over. -/
theorem get?_congr {a b : String} (h : lower a = lower b) (store : AccountStore) :
    store.get? a = store.get? b := by
  cases store with
  | memory s => simp only [get?, AccountMap.get?, h]
  | table t => simp only [get?, AccountTable.get?, h]

/-! ## What a store holds -/

/-- Whether there is an account of an address, or a line of one that cannot be read. -/
def Holds (store : AccountStore) (address : String) : Prop := store.get? address ≠ .ok none

variable {store : AccountStore} {a b : String}

theorem Holds.congr (h : store.Holds a) (same : lower a = lower b) : store.Holds b := by
  rwa [Holds, ← get?_congr same]

/-- **A save removes no account,** and adds that of its own address. -/
theorem holds_save (store : AccountStore) (account : Account) (address : String) :
    (store.save account).Holds address ↔
      lower address = lower account.address ∨ store.Holds address := by
  by_cases own : lower address = lower account.address
  · simp only [Holds, get?_save own, own, true_or, iff_true]
    exact nofun
  · simp only [Holds, get?_save_of_ne own, own, false_or]

theorem Holds.of_get? {account : Account} (h : store.get? a = .ok (some account)) : store.Holds a := by
  rw [Holds, h]
  exact nofun

theorem holds_of_get? {account : Account} (h : store.get? a = .ok (some account)) :
    store.Holds account.address :=
  (Holds.of_get? h).congr (lower_address_of_get? h).symm

end AccountStore

end TransferLedger
