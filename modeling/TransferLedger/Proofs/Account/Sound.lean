/-
# TransferLedger.Proofs.Account.Sound -- accounts as they may be stored

A sound account has its address in lower case, holds every token once and only while its balance is
positive, and writes all balances as numbers of 256 bits without needless zeros. A new account is
sound, a refresh with balances from the chain keeps an account sound, and both stores give back what
was put in, so that a store of sound accounts stays one.
-/

import TransferLedger.Proofs.Account.Merge
import TransferLedger.Proofs.Account.Records
import TransferLedger.Proofs.Reconcile.Reading

namespace TransferLedger

open TransferLedger.Text TransferLedger.Number

/-! ## Canonical decimals -/

/-- **A canonical decimal text of a number:** it denotes the number, is not empty, and starts with a
zero only if it is nothing else. -/
structure IsDecimalOf (text : String) (n : Nat) : Prop where
  denotes : decimalNat? text.toList = some n
  nonempty : text.toList ≠ []
  leading : text.toList.head? = some '0' → text.toList = ['0']

theorem isDecimalOf_decimalText (n : Nat) : IsDecimalOf (decimalText n) n := by
  constructor <;> rw [decimalText, String.toList_ofList]
  case denotes => exact decimalNat?_decimal n
  case nonempty => exact decimal_ne_nil n
  case leading =>
    intro zero
    rw [eq_zero_of_head_decimal zero]
    rfl

/-! ## Sound accounts -/

/-- A token balance that may be stored: positive, under an address in lower case. -/
structure TokenBalance.Sound (t : TokenBalance) : Prop where
  address : lower t.address = t.address
  balance : ∃ n, 1 ≤ n ∧ n < 2 ^ 256 ∧ IsDecimalOf t.balance n

namespace Account

/-- Tokens that an account may hold: each may be stored, and no two have one address. -/
structure SoundTokens (held : List TokenBalance) : Prop where
  each : ∀ t ∈ held, t.Sound
  distinct : (held.map (·.address)).Nodup

/-- **A sound account.** -/
structure Sound (account : Account) : Prop where
  address : lower account.address = account.address
  balance : ∃ n, n < 2 ^ 256 ∧ IsDecimalOf account.balance n
  tokens : SoundTokens account.tokens

theorem sound_register (address : String) : (register address).Sound where
  address := lower_lower address
  balance := ⟨0, by decide, isDecimalOf_decimalText 0⟩
  tokens := ⟨by simp [register], by simp [register]⟩

/-! ## After a refresh -/

/-- A token that was read from the chain may be stored unless it is zero. -/
theorem sound_of_readToken {chain : Chain} {owner token : String} {t : TokenBalance}
    (read : (readToken chain owner token).answer = .ok t) (positive : t.isZero = false) :
    t.Sound := by
  obtain ⟨address, v, -, written⟩ := readToken_eq_ok read
  have nonzero : v ≠ 0 := by simpa [isZero_of_toDecimal written] using positive
  -- Only the zero word counts as zero, so the number written here is positive.
  have value : v.toNat ≠ 0 := fun zero => nonzero (BitVec.eq_of_toNat_eq zero)
  refine ⟨by rw [address, lower_lower], v.toNat, Nat.pos_of_ne_zero value, v.isLt, ?_⟩
  rw [written]
  exact isDecimalOf_decimalText v.toNat

theorem sound_of_readTokens {chain : Chain} {owner : String} {tokens : List String}
    {fresh : List TokenBalance}
    (read : List.Forall₂ (fun token t => (readToken chain owner token).answer = .ok t) tokens fresh) :
    ∀ t ∈ fresh, t.isZero = false → t.Sound := by
  induction read with
  | nil => simp
  | cons first _ ih => exact List.forall_mem_cons.mpr ⟨sound_of_readToken first, ih⟩

/-- One refreshed token leaves sound tokens sound. -/
theorem SoundTokens.refreshToken {held : List TokenBalance} (h : SoundTokens held)
    {t : TokenBalance} (fresh : t.isZero = false → t.Sound) : SoundTokens (refreshToken held t) := by
  rw [refreshToken_eq]
  cases zero : t.isZero with
  | true =>
    rw [if_pos rfl, List.append_nil]
    exact ⟨fun s hs => h.each s (List.mem_filter.mp hs).1,
      h.distinct.sublist (List.filter_sublist.map _)⟩
  | false =>
    rw [if_neg Bool.false_ne_true]
    constructor
    case each =>
      intro s hs
      rcases List.mem_append.mp hs with other | own
      · exact h.each s (List.mem_filter.mp other).1
      · rw [List.mem_singleton.mp own]
        exact fresh zero
    case distinct =>
      rw [List.map_append, List.nodup_append]
      refine ⟨h.distinct.sublist (List.filter_sublist.map _), by simp, ?_⟩
      rintro a ha b hb rfl
      -- An entry with the address of the refreshed one has left its place.
      obtain ⟨s, hs, rfl⟩ := List.mem_map.mp ha
      have same : s.address = t.address := by simpa using hb
      have apart : s.sameToken t = false := by simpa using (List.mem_filter.mp hs).2
      have alike : s.sameToken t = true := TokenBalance.sameToken_iff.mpr (congrArg lower same)
      exact absurd (alike.symm.trans apart) (by decide)

/-- Any number of refreshed tokens leaves sound tokens sound. -/
theorem SoundTokens.refresh {fresh : List TokenBalance}
    (sound : ∀ t ∈ fresh, t.isZero = false → t.Sound) {held : List TokenBalance}
    (h : SoundTokens held) : SoundTokens (fresh.foldl Account.refreshToken held) := by
  induction fresh generalizing held with
  | nil => exact h
  | cons t rest ih =>
    exact ih (fun s hs => sound s (List.mem_cons_of_mem _ hs))
      (h.refreshToken (sound t List.mem_cons_self))

/-- **A refresh from the chain leaves a sound account sound.** -/
theorem Sound.merge {account : Account} (h : account.Sound) {c : FilterCompiler} {chain : Chain}
    {faults : Faults} {w : World} {address : String} {transaction : Option Transaction}
    {fresh : Balances}
    (reads : (readBalances c chain faults w address transaction).answer = .ok fresh) (now : Int64) :
    (account.merge fresh now).Sound := by
  obtain ⟨tokens, native, -, -, read, -, written⟩ := readBalances_eq_ok reads
  constructor
  case address => exact h.address
  case balance =>
    refine ⟨native.toNat, native.isLt, ?_⟩
    show IsDecimalOf fresh.balance native.toNat
    rw [written]
    exact isDecimalOf_decimalText native.toNat
  case tokens => exact h.tokens.refresh (sound_of_readTokens read)

end Account

/-! ## Stores of sound accounts -/

namespace AccountStore

/-- **Every record of the store can be read,** is of the account that its key names, and this is
sound. -/
def Sound (store : AccountStore) : Prop :=
  ∀ entry ∈ store.records, ∃ account, entry.2.read = .ok account ∧ account.address = entry.1 ∧
    account.Sound

variable {store : AccountStore} {account : Account}

theorem sound_of_empty (h : store.records = []) : store.Sound := by
  simp [Sound, h]

/-- An account found in such a store is sound. -/
theorem Sound.get? (h : store.Sound) {address : String}
    (found : store.get? address = .ok (some account)) : account.Sound := by
  obtain ⟨record, held, read⟩ := exists_record_of_get? found
  obtain ⟨other, same, -, sound⟩ := h _ held
  rwa [← Except.ok.inj (same.symm.trans read)]

/-- **A saved account leaves the store sound** if it is sound itself. -/
theorem Sound.save (h : store.Sound) (sound : account.Sound) : (store.save account).Sound := by
  intro entry there
  rcases mem_records_save there with old | ⟨key, read⟩
  · exact h entry old
  · refine ⟨account, ?_, by rw [key, sound.address], sound⟩
    rw [read, kept_of_lower sound.address]

end AccountStore

end TransferLedger
