/-
# TransferLedger.Proofs.Account.Records -- what an account store holds, record by record

Seen from the outside a store is a list of records under their keys: accounts as they are in
process, lines in a table. A look-up reads one record. A save puts one record in and leaves those of
all other keys as they are, so that a save of an account that is there already changes no key.
-/

import TransferLedger.Proofs.Account.Stored

namespace TransferLedger

open TransferLedger.Text

/-! ## Records -/

/-- **What a store holds of an account.** -/
inductive AccountRecord where
  | account (a : Account)
  | line (l : AccountLine)
deriving DecidableEq, Repr

/-- The account that a record is of. -/
def AccountRecord.read : AccountRecord → Except BadTokens Account
  | account a => .ok a
  | line l => l.toAccount

/-- The account of a line has the address of the line. -/
theorem AccountLine.address_of_toAccount {l : AccountLine} {account : Account}
    (h : l.toAccount = .ok account) : account.address = l.address := by
  rw [toAccount] at h
  split at h
  case h_1 => rw [← Except.ok.inj h]
  case h_2 => cases h

/-- A line after a save was there before or is the one of the saved account. -/
theorem AccountTable.mem_lines_save {table : AccountTable} {account : Account} {l : AccountLine}
    (h : l ∈ (table.save account).lines) : l ∈ table.lines ∨ l = AccountLine.ofAccount account := by
  rw [save_eq] at h
  split at h
  case isTrue =>
    obtain ⟨old, there, rfl⟩ := List.mem_map.mp h
    split
    case isTrue => exact .inr rfl
    case isFalse => exact .inl there
  case isFalse => simpa using h

namespace AccountStore

/-- **The records of a store,** each under its key. -/
def records : AccountStore → List (String × AccountRecord)
  | memory s => s.accounts.map fun (key, a) => (key, .account a)
  | table t => t.lines.map fun l => (l.address, .line l)

/-- The records under a key. -/
def recordsAt (store : AccountStore) (key : String) : List (String × AccountRecord) :=
  store.records.filter (·.1 == key)

variable {store : AccountStore} {account : Account} {address key : String}

theorem recordsAt_memory (s : AccountMap) (key : String) :
    (memory s).recordsAt key =
      (s.accounts.filter (·.1 == key)).map fun (key, a) => (key, .account a) := by
  rw [recordsAt, records, List.filter_map]
  rfl

theorem recordsAt_table (t : AccountTable) (key : String) :
    (table t).recordsAt key =
      (t.lines.filter (·.address == key)).map fun l => (l.address, .line l) := by
  rw [recordsAt, records, List.filter_map]
  rfl

theorem recordsAt_ne_nil_iff :
    store.recordsAt key ≠ [] ↔ ∃ record, (key, record) ∈ store.records := by
  simp [recordsAt, List.filter_eq_nil_iff]

/-! ## Looking up -/

/-- **An account that is found** is read from a record under its address. -/
theorem exists_record_of_get? (h : store.get? address = .ok (some account)) :
    ∃ record, (lower address, record) ∈ store.records ∧ record.read = .ok account := by
  cases store with
  | memory s =>
    obtain ⟨front, back, held, -⟩ := List.lookup_eq_some_iff.mp (Except.ok.inj h)
    exact ⟨.account account, by simp [records, held], rfl⟩
  | table t =>
    have found : t.get? address = .ok (some account) := Fallible.mapError_eq_ok.mp h
    rw [AccountTable.get?] at found
    split at found
    case h_1 => cases found
    case h_2 l hl =>
      have own : l.address = lower address := by simpa using List.find?_some hl
      refine ⟨.line l, List.mem_map.mpr ⟨l, List.mem_of_find?_eq_some hl, by rw [own]⟩, ?_⟩
      cases read : l.toAccount with
      | error e => simp [read, Except.map] at found
      | ok a => simpa [AccountRecord.read, read, Except.map] using found

/-- An account with an address in lower case is kept as it is. -/
theorem kept_of_lower (h : lower account.address = account.address) (store : AccountStore) :
    store.kept account = account := by
  cases store with
  | memory s => rfl
  | table t => simp only [kept, h]

/-- An account that is found is kept as it is as long as it keeps its address. -/
theorem kept_of_get? {fresh : Account} (h : store.get? address = .ok (some account))
    (same : fresh.address = account.address) : store.kept fresh = fresh := by
  cases store with
  | memory s => rfl
  | table t =>
    -- A line is found under an address in lower case, which is then that of its account.
    obtain ⟨record, held, read⟩ := exists_record_of_get? h
    obtain ⟨l, -, entry⟩ := List.mem_map.mp held
    obtain ⟨own, rfl⟩ := Prod.mk.inj entry
    refine kept_of_lower ?_ (table t)
    rw [same, AccountLine.address_of_toAccount read, own, lower_lower]

/-! ## Saving -/

/-- **A save leaves the records of all other keys as they are.** -/
theorem recordsAt_save_of_ne (h : key ≠ lower account.address) (store : AccountStore) :
    (store.save account).recordsAt key = store.recordsAt key := by
  cases store with
  | memory s =>
    have apart : (lower account.address == key) = false := by simpa using h.symm
    -- The new entry has another key, and so have the entries that make room for it.
    have others : ((s.save account).accounts.filter (·.1 == key)) =
        s.accounts.filter (·.1 == key) := by
      rw [AccountMap.save, List.filter_cons_of_neg (by simp [apart]), List.filter_filter]
      refine List.filter_congr fun entry _ => ?_
      cases same : entry.1 == key
      case false => rfl
      case true => simpa [eq_of_beq same] using h
    rw [save, recordsAt_memory, recordsAt_memory, others]
  | table t =>
    have others : ((t.save account).lines.filter (·.address == key)) =
        t.lines.filter (·.address == key) := by
      rw [AccountTable.save_eq]
      split
      case isTrue =>
        -- A line keeps its address when another takes its place, so the lines can be chosen first.
        rw [AccountTable.replaced, List.filter_map]
        simp only [Function.comp_def, AccountTable.address_replacement]
        calc (t.lines.filter (·.address == key)).map _
            = (t.lines.filter (·.address == key)).map id := by
              refine List.map_congr_left fun l hl => if_neg ?_
              have own : l.address = key := by simpa using (List.mem_filter.mp hl).2
              rw [own]
              exact h
          _ = t.lines.filter (·.address == key) := List.map_id _
      case isFalse =>
        have apart : ((AccountLine.ofAccount account).address == key) = false := by
          simpa [AccountLine.ofAccount] using h.symm
        rw [List.filter_append, List.filter_cons_of_neg (by simp [apart]), List.filter_nil,
          List.append_nil]
    rw [save, recordsAt_table, recordsAt_table, others]

/-- A record after a save was there before or is the one of the saved account. -/
theorem mem_records_save {entry : String × AccountRecord}
    (h : entry ∈ (store.save account).records) :
    entry ∈ store.records ∨
      entry.1 = lower account.address ∧ entry.2.read = .ok (store.kept account) := by
  cases store with
  | memory s =>
    obtain ⟨held, there, rfl⟩ := List.mem_map.mp h
    rcases List.mem_cons.mp there with rfl | old
    · exact .inr ⟨rfl, rfl⟩
    · exact .inl (List.mem_map.mpr ⟨held, (List.mem_filter.mp old).1, rfl⟩)
  | table t =>
    obtain ⟨l, there, rfl⟩ := List.mem_map.mp h
    rcases AccountTable.mem_lines_save there with old | rfl
    · exact .inl (List.mem_map.mpr ⟨l, old, rfl⟩)
    · exact .inr ⟨rfl, AccountLine.toAccount_ofAccount account⟩

/-- **A save of an account that is there creates no key and deletes none.** -/
theorem recordsAt_save_ne_nil_iff (h : store.get? address = .ok (some account))
    {fresh : Account} (same : fresh.address = account.address) :
    (store.save fresh).recordsAt key ≠ [] ↔ store.recordsAt key ≠ [] := by
  by_cases own : key = lower fresh.address
  case neg => rw [recordsAt_save_of_ne own]
  case pos =>
    have before : store.recordsAt key ≠ [] := by
      obtain ⟨record, held, -⟩ := exists_record_of_get? h
      rw [own, same, lower_address_of_get? h]
      exact recordsAt_ne_nil_iff.mpr ⟨record, held⟩
    have after : (store.save fresh).recordsAt key ≠ [] := by
      obtain ⟨record, held, -⟩ := exists_record_of_get? (get?_save (rfl : lower fresh.address = _) store)
      rw [own]
      exact recordsAt_ne_nil_iff.mpr ⟨record, held⟩
    exact iff_of_true after before

end AccountStore

end TransferLedger
