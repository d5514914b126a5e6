/-
# TransferLedger.Proofs.LogStore.LastWrite -- the tables keep the last row of every identity

A row lives in both tables: in one line under its identity, with its lists as document text, and in a
line for each of its arguments. Putting a row in takes the place of all lines of its identity and of
no others, so after any batches the tables hold the row that was put in last under each identity, and
no line that belongs to another. The text of a line gives back the row, up to the letter case of the
signature and the address.
-/

import Mathlib.Data.List.Dedup
import TransferLedger.Proofs.Json.Written
import TransferLedger.Proofs.LogStore.Refinement

namespace TransferLedger

open TransferLedger.Text

/-! ## Rows as lines -/

/-- A row as the tables keep it: its signature and its address are in lower case. -/
def LogRow.lowered (row : LogRow) : LogRow :=
  { row with signature := lower row.signature, address := lower row.address }

namespace SlotWord

theorem toJson_eq (a : SlotWord) :
    a.toJson = .obj [("c", .arr (a.limbs.map fun limb => .nat limb.toNat)),
      ("e", .nat a.exponent.toNat), ("index", .nat a.slot.toNat)] := by
  rfl

theorem isKept_toJson (a : SlotWord) : a.toJson.isKept = true := by
  have limbs : Json.areItemsKept (a.limbs.map fun limb => .nat limb.toNat) = true :=
    Json.areItemsKept_map (fun limb => Json.isKept_nat limb.toNat_lt) a.limbs
  have exponent : (Json.nat a.exponent.toNat).isKept = true :=
    Json.isKept_nat (Nat.lt_trans a.exponent.toNat_lt (by decide))
  have slot : (Json.nat a.slot.toNat).isKept = true := Json.isKept_nat a.slot.toNat_lt
  simp only [toJson_eq, Json.isKept, Json.areFieldsKept, Json.isFieldKept, limbs]
  rw [Bool.true_and, Bool.and_true, Bool.and_eq_true]
  exact ⟨exponent, slot⟩

open Json.Decoder in
/-- The fields of a written word stand in the order of their names, and are decoded in another. -/
theorem decoder_obj {c e i : Json.Reading} {limbs : List UInt64} {exponent : UInt32}
    {slot : UInt64} (hc : list word64 c = .ok limbs) (he : word32 e = .ok exponent)
    (hi : word64 i = .ok slot) :
    decoder (.obj [(some "c", c), (some "e", e), (some "index", i)]) =
      .ok ⟨exponent, limbs, slot⟩ := by
  have checked : checkFields [field "e" word32, field "c" (list word64), field "index" word64] []
      [(some "c", c), (some "e", e), (some "index", i)] = .ok () := by
    simp [checkFields, field, hc, he, hi, Except.map]
    rfl
  rw [decoder, record_obj checked]
  show (word32 e >>= fun exponent => list word64 c >>= fun limbs => word64 i >>= fun slot =>
    Except.ok (SlotWord.mk exponent limbs slot)) = _
  rw [he, hc, hi]
  rfl

open Json.Decoder in
theorem decoder_toJson (a : SlotWord) : decoder (Json.Reading.ofJson a.toJson) = .ok a := by
  rw [toJson_eq, Json.Reading.ofJson, Json.Reading.ofFields, Json.Reading.ofFields,
    Json.Reading.ofFields, Json.Reading.ofFields, Json.Reading.ofField, Json.Reading.ofField,
    Json.Reading.ofField]
  exact decoder_obj (list_map word64_nat a.limbs) (word32_nat a.exponent) (word64_nat a.slot)

end SlotWord

/-- **A line gives back its row,** in lower case where texts are compared. -/
theorem LogLine.toRow_ofRow (row : LogRow) : (ofRow row).toRow = .ok row.lowered := by
  have kept : ∀ text, (Json.str text).isKept = true := fun _ => rfl
  have values : Json.Decoder.ofText? (Json.Decoder.list Json.Decoder.text)
      (Utf8.encode (Json.texts row.values).render) = some row.values :=
    Json.Decoder.ofText?_render kept (fun _ => rfl) row.values
  have args : Json.Decoder.ofText? (Json.Decoder.list SlotWord.decoder)
      (Utf8.encode (Json.arr (row.args.map SlotWord.toJson)).render) = some row.args :=
    Json.Decoder.ofText?_render SlotWord.isKept_toJson SlotWord.decoder_toJson row.args
  have start : (row.dataValuesStart.map (·.toInt64)).map (·.toUInt64) = row.dataValuesStart := by
    cases row.dataValuesStart with
    | none => rfl
    | some start => exact congrArg some (UInt64.toUInt64_toInt64 start)
  simp only [toRow, ofRow, values, args, UInt64.toUInt64_toInt64, start, LogRow.lowered]

/-! ## The last row -/

/-- The row that stands last under an identity. -/
def lastOf (id : String) (rows : List LogRow) : Option LogRow :=
  (rows.filter (·.id == id)).getLast?

theorem lastOf_concat (id : String) (rows : List LogRow) (row : LogRow) :
    lastOf id (rows ++ [row]) = if row.id = id then some row else lastOf id rows := by
  rw [lastOf, List.filter_append, List.filter_singleton]
  by_cases mine : row.id = id
  · rw [if_pos mine, beq_iff_eq.mpr mine, cond_true, List.getLast?_concat]
  · rw [if_neg mine, beq_eq_false_iff_ne.mpr mine, cond_false, List.append_nil]
    rfl

/-- **The tables hold the last of some rows under every identity,** and nothing else under it. -/
structure HoldsLast (tables : LogTables) (rows : List LogRow) : Prop where
  logs : ∀ id, tables.logs.filter (·.id == id) = ((lastOf id rows).map LogLine.ofRow).toList
  args : ∀ id, tables.args.filter (·.logId == id) =
    (lastOf id rows).elim [] fun row => row.args.map (ArgLine.ofArg id)

variable {tables : LogTables} {rows : List LogRow}

theorem holdsLast_empty : HoldsLast .empty [] where
  logs := fun _ => rfl
  args := fun _ => rfl

/-- **Putting a row in makes it the last of its identity** and leaves all others as they are. -/
theorem HoldsLast.put (h : HoldsLast tables rows) (row : LogRow) :
    HoldsLast (tables.put row) (rows ++ [row]) where
  logs := by
    intro id
    have own : ∀ line ∈ [LogLine.ofRow row], line.id = row.id := by
      intro line hl
      rw [List.mem_singleton.mp hl]
      rfl
    rw [LogTables.put, filter_replaced own, lastOf_concat, h.logs]
    split <;> rfl
  args := by
    intro id
    rw [LogTables.put, filter_replaced logId_of_mem_args, lastOf_concat, h.args]
    split
    · next mine => rw [mine]; rfl
    · rfl

theorem HoldsLast.insert (h : HoldsLast tables rows) (batch : List LogRow) :
    HoldsLast (tables.insert batch) (rows ++ batch) := by
  induction batch generalizing tables rows with
  | nil => rwa [List.append_nil]
  | cons row batch ih =>
    rw [List.append_cons]
    exact ih (h.put row)

/-- **After any batches,** the tables hold the last of all the rows that were put in. -/
theorem HoldsLast.insert_all (h : HoldsLast tables rows) (batches : List (List LogRow)) :
    HoldsLast (batches.foldl LogTables.insert tables) (rows ++ batches.flatten) := by
  induction batches generalizing tables rows with
  | nil => rwa [List.flatten_nil, List.append_nil]
  | cons batch batches ih =>
    rw [List.flatten_cons, ← List.append_assoc]
    exact ih (h.insert batch)

theorem HoldsLast.get? (h : HoldsLast tables rows) (id : String) :
    tables.get? id = .ok ((lastOf id rows).map LogRow.lowered) := by
  have first : tables.logs.find? (·.id == id) = (lastOf id rows).map LogLine.ofRow := by
    rw [← List.head?_filter, h.logs]
    cases lastOf id rows <;> rfl
  rw [LogTables.get?, first]
  cases lastOf id rows with
  | none => rfl
  | some row =>
    show (LogLine.ofRow row).toRow.map some = _
    rw [LogLine.toRow_ofRow]
    rfl

/-! ## The number of rows -/

/-- The places of a store are those of the rows that were put in. -/
theorem mem_keys_insert {memory : OrderedLogs} (h : InOrder memory.rows) (batch : List LogRow)
    (key : Nat × Nat × Nat) :
    key ∈ (memory.insert batch).rows.map LogRow.key ↔
      key ∈ memory.rows.map LogRow.key ∨ key ∈ batch.map LogRow.key := by
  induction batch generalizing memory with
  | nil =>
    rw [List.map_nil, or_iff_left List.not_mem_nil]
    rfl
  | cons row batch ih =>
    have placed : key ∈ (OrderedLogs.put row memory.rows).map LogRow.key ↔
        key ∈ memory.rows.map LogRow.key ∨ key = row.key := by
      have others : (memory.rows.filter (·.key != row.key)).map LogRow.key =
          (memory.rows.map LogRow.key).filter (· != row.key) := by
        rw [List.filter_map]
        rfl
      rw [((perm_put h).map LogRow.key).mem_iff, List.map_cons, others, List.mem_cons,
        List.mem_filter, bne_iff_ne]
      by_cases own : key = row.key <;> simp [own]
    rw [List.map_cons, List.mem_cons, ← or_assoc, ← placed]
    exact @ih ⟨OrderedLogs.put row memory.rows⟩ (h.put row)

theorem InOrder.nodup_keys (h : InOrder rows) : (rows.map LogRow.key).Nodup := by
  rw [List.Nodup, List.pairwise_map]
  exact h.imp fun before => ne_of_keyBefore before

/-- **A store holds one row for each place** that a row was put in at. -/
theorem OrderedLogs.count_insert (batch : List LogRow) :
    (empty.insert batch).count = (batch.map LogRow.key).dedup.length := by
  have ordered : InOrder (empty.insert batch).rows := (mirrors_empty.insert batch).ordered
  have places : ((empty.insert batch).rows.map LogRow.key).Perm (batch.map LogRow.key).dedup := by
    rw [List.perm_ext_iff_of_nodup ordered.nodup_keys (List.nodup_dedup _)]
    intro key
    rw [mem_keys_insert mirrors_empty.ordered, List.mem_dedup]
    exact or_iff_right List.not_mem_nil
  rw [count, ← places.length_eq, List.length_map]

/-! ## Batches -/

/-- **The tables keep the last row of every identity.** After any batches, whatever the numbers and
the arguments of the rows and however often an identity is put in: what is read under an identity is
the row that was put in last under it, in lower case where texts are compared, and nothing if there
was none; the table of arguments has the arguments of that row under the identity, in their order, and
no line more; and there are as many rows as different places. -/
theorem tables_keep_last_rows (batches : List (List LogRow)) :
    let tables := batches.foldl LogTables.insert .empty
    let rows := batches.flatten
    (∀ id, tables.get? id = .ok ((lastOf id rows).map LogRow.lowered) ∧
      tables.args.filter (·.logId == id) =
        (lastOf id rows).elim [] fun row => row.args.map (ArgLine.ofArg id)) ∧
      tables.count = (rows.map LogRow.key).dedup.length := by
  intro tables rows
  have last : HoldsLast tables rows := holdsLast_empty.insert_all batches
  refine ⟨fun id => ⟨last.get? id, last.args id⟩, ?_⟩
  calc tables.count
    _ = (batches.foldl OrderedLogs.insert .empty).count := (mirrors_batches batches).count
    _ = (OrderedLogs.empty.insert rows).count := by rw [OrderedLogs.insert_flatten]
    _ = (rows.map LogRow.key).dedup.length := OrderedLogs.count_insert rows

end TransferLedger
