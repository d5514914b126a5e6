/-
# TransferLedger.Proofs.Account.Times -- account stores that differ in times only

Every save writes the time at which it was made, so two stores that have come to the same accounts on
different ways still differ in their times. Apart from these a store is what it shows under every key.
There a save leaves one and the same record everywhere it stands, so that saves of one account differ
in their times as the accounts do, and saves under different keys may change places.
-/

import TransferLedger.Proofs.Account.Records

namespace TransferLedger

open TransferLedger.Text

/-- The account without the time of its refresh. -/
def Account.untimed (account : Account) : Account := { account with updatedAt := none }

theorem Account.address_of_untimed {a b : Account} (same : a.untimed = b.untimed) :
    a.address = b.address := (congrArg Account.address same :)

/-- The record without the time of its refresh. -/
def AccountRecord.untimed : AccountRecord → AccountRecord
  | account a => account a.untimed
  | line l => line { l with updatedAt := none }

/-- Under its own address a saved account is all that there is in a table. -/
theorem AccountTable.filter_save (table : AccountTable) (account : Account) :
    (table.save account).lines.filter (·.address == lower account.address) =
      List.replicate (max 1 (table.lines.filter (·.address == lower account.address)).length)
        (AccountLine.ofAccount account) := by
  rw [save_eq]
  split
  case isTrue held =>
    have some : (table.lines.filter (·.address == lower account.address)) ≠ [] := by
      obtain ⟨l, there, own⟩ := List.any_eq_true.mp held
      exact List.ne_nil_of_mem (List.mem_filter.mpr ⟨there, own⟩)
    rw [replaced, List.filter_map, Nat.max_eq_right (List.length_pos_iff.mpr some), ← List.map_const']
    simp only [Function.comp_def, address_replacement]
    apply List.map_congr_left
    intro l there
    have own : l.address = (AccountLine.ofAccount account).address :=
      eq_of_beq (List.mem_filter.mp there).2
    rw [if_pos own]
  case isFalse fresh =>
    have none : (table.lines.filter (·.address == lower account.address)) = [] := by
      simpa [List.filter_eq_nil_iff] using fresh
    rw [List.filter_append, none, List.filter_cons_of_pos (by simp [AccountLine.ofAccount])]
    rfl

namespace AccountStore

variable {a b : Account} {s t : AccountStore} {key address : String}

/-! ## The records of a saved account -/

/-- What an account is in the store. -/
def record : AccountStore → Account → AccountRecord
  | memory _, account => .account account
  | table _, account => .line (.ofAccount account)

/-- How many records stand under a key after a save: a table changes all that are there. -/
def places : AccountStore → String → Nat
  | memory _, _ => 1
  | table t, key => max 1 ((table t).recordsAt key).length

theorem record_save (store : AccountStore) (a b : Account) : (store.save a).record b = store.record b := by
  cases store <;> rfl

/-- Under its own key a saved account is all that there is. -/
theorem recordsAt_save (store : AccountStore) (account : Account) :
    (store.save account).recordsAt (lower account.address) =
      List.replicate (store.places (lower account.address))
        (lower account.address, store.record account) := by
  cases store with
  | memory s =>
    have others : (s.accounts.filter (·.1 != lower account.address)).filter
        (·.1 == lower account.address) = [] := by
      rw [List.filter_filter, List.filter_eq_nil_iff]
      simp
    rw [save, recordsAt_memory, AccountMap.save, List.filter_cons_of_pos (by simp), others]
    rfl
  | table t =>
    rw [save, recordsAt_table, AccountTable.filter_save, List.map_replicate, places, recordsAt_table,
      List.length_map]
    rfl

theorem places_save_of_ne (h : key ≠ lower a.address) (store : AccountStore) :
    (store.save a).places key = store.places key := by
  cases store with
  | memory s => rfl
  | table t => exact congrArg (max 1 ·.length) (recordsAt_save_of_ne h (table t))

/-- **Saves under different keys** may change places. -/
theorem recordsAt_save_comm (apart : lower a.address ≠ lower b.address) (store : AccountStore)
    (key : String) :
    ((store.save a).save b).recordsAt key = ((store.save b).save a).recordsAt key := by
  by_cases first : key = lower a.address
  · subst first
    rw [recordsAt_save_of_ne apart, recordsAt_save, recordsAt_save, record_save,
      places_save_of_ne apart]
  · rw [recordsAt_save_of_ne first (store.save b)]
    by_cases second : key = lower b.address
    · subst second
      rw [recordsAt_save, recordsAt_save, record_save, places_save_of_ne apart.symm]
    · rw [recordsAt_save_of_ne second, recordsAt_save_of_ne second, recordsAt_save_of_ne first]

/-! ## Apart from times -/

/-- The records under a key without their times. -/
def untimedAt (store : AccountStore) (key : String) : List (String × AccountRecord) :=
  (store.recordsAt key).map fun entry => (entry.1, entry.2.untimed)

/-- **Two stores differ in times only.** -/
def SameButTimes (s t : AccountStore) : Prop := ∀ key, s.untimedAt key = t.untimedAt key

theorem SameButTimes.refl (s : AccountStore) : s.SameButTimes s := fun _ => rfl

theorem SameButTimes.trans {u : AccountStore} (h : s.SameButTimes t) (h' : t.SameButTimes u) :
    s.SameButTimes u := fun key => (h key).trans (h' key)

theorem sameButTimes_of_recordsAt (h : ∀ key, s.recordsAt key = t.recordsAt key) :
    s.SameButTimes t := fun key => congrArg (List.map _) (h key)

/-- **Accounts that differ in their time** leave stores that do. -/
theorem sameButTimes_save (same : a.untimed = b.untimed) (store : AccountStore) :
    (store.save a).SameButTimes (store.save b) := by
  intro key
  have address : lower a.address = lower b.address := by rw [Account.address_of_untimed same]
  by_cases own : key = lower a.address
  · have record : (store.record a).untimed = (store.record b).untimed := by
      cases store with
      | memory s => exact congrArg AccountRecord.account same
      | table t =>
        obtain ⟨_, _, _, _, _⟩ := a
        obtain ⟨_, _, _, _, _⟩ := b
        cases same
        rfl
    subst own
    rw [untimedAt, untimedAt, recordsAt_save, address, recordsAt_save, List.map_replicate,
      List.map_replicate, record]
  · rw [untimedAt, untimedAt, recordsAt_save_of_ne own, recordsAt_save_of_ne (address ▸ own)]

/-- **Saves under different keys at any times** may change places. -/
theorem sameButTimes_save_comm {a' b' : Account} (apart : lower a.address ≠ lower b.address)
    (first : a.untimed = a'.untimed) (second : b.untimed = b'.untimed) (store : AccountStore) :
    ((store.save a).save b).SameButTimes ((store.save b').save a') := by
  have address : b.address = b'.address := Account.address_of_untimed second
  have swapped : ((store.save a).save b').SameButTimes ((store.save b').save a) :=
    sameButTimes_of_recordsAt (recordsAt_save_comm (address ▸ apart) store)
  exact (sameButTimes_save second (store.save a)).trans
    (swapped.trans (sameButTimes_save first (store.save b')))

/-! ## What is found -/

/-- What a look-up makes of the first record under its key. -/
def found : Option AccountRecord → Except Failure (Option Account)
  | none => .ok none
  | some record => (record.read.map some).mapError BadTokens.failure

theorem get?_eq_found (store : AccountStore) (address : String) :
    store.get? address = found ((store.recordsAt (lower address)).map (·.2)).head? := by
  cases store with
  | memory s =>
    have first : ∀ accounts : List (String × Account), accounts.lookup (lower address) =
        (accounts.find? (·.1 == lower address)).map (·.2) := by
      intro accounts
      induction accounts with
      | nil => rfl
      | cons entry rest ih =>
        rw [List.lookup_cons, List.find?_cons, BEq.comm, ih]
        split <;> rfl
    rw [get?, AccountMap.get?, first, recordsAt_memory, List.map_map, List.head?_map,
      List.head?_filter]
    cases s.accounts.find? (·.1 == lower address) <;> rfl
  | table t =>
    rw [get?, AccountTable.get?, recordsAt_table, List.map_map, List.head?_map, List.head?_filter]
    cases t.lines.find? (·.address == lower address) <;> rfl

theorem found_untimed (record : Option AccountRecord) :
    found (record.map AccountRecord.untimed) = (found record).map (Option.map Account.untimed) := by
  match record with
  | none | some (.account a) => rfl
  | some (.line l) =>
    show ((AccountLine.toAccount { l with updatedAt := none }).map some).mapError _ =
      (((AccountLine.toAccount l).map some).mapError _).map _
    unfold AccountLine.toAccount
    cases Json.Decoder.ofText? (Json.Decoder.list TokenBalance.decoder) (Utf8.encode l.tokens) <;> rfl

/-- **What is found in both** differs in its time only. -/
theorem SameButTimes.get? (h : s.SameButTimes t) (address : String) :
    (s.get? address).map (Option.map Account.untimed) =
      (t.get? address).map (Option.map Account.untimed) := by
  have first : ∀ u : AccountStore, (u.get? address).map (Option.map Account.untimed) =
      found ((u.untimedAt (lower address)).map (·.2)).head? := by
    intro u
    rw [get?_eq_found, ← found_untimed, untimedAt, List.map_map, List.head?_map, List.head?_map,
      Option.map_map]
    rfl
  rw [first, first, h]

end AccountStore

end TransferLedger
