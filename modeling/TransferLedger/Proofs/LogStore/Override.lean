/-
# TransferLedger.Proofs.LogStore.Override -- a batch overrides what a log store holds

Seen through one identity a store holds rows, or lines of both tables. A batch puts what belongs to
the last of its rows there, or leaves what was there if it has no row of the identity. So a batch that
is put in again finds its own work, and the store stays the same to the last line. In process this
rests on the order of the rows, which leaves one list only for what the identities show.
-/

import TransferLedger.LogStore
import TransferLedger.Proofs.LogStore.LastWrite

namespace TransferLedger

variable {rows rows' : List LogRow}

/-! ## Rows in process -/

/-- The order leaves one list for some rows. -/
theorem InOrder.eq_of_perm (h : InOrder rows) (h' : InOrder rows') (same : rows.Perm rows') :
    rows = rows' :=
  List.Perm.eq_of_pairwise
    (fun _ _ _ _ first second => absurd rfl (ne_of_keyBefore (keyBefore_trans first second))) h h' same

theorem InOrder.nodup (h : InOrder rows) : rows.Nodup := h.nodup_keys.of_map _

/-- Rows in order are told by their members. -/
theorem InOrder.eq_of_mem_iff (h : InOrder rows) (h' : InOrder rows')
    (same : ∀ row, row ∈ rows ↔ row ∈ rows') : rows = rows' :=
  h.eq_of_perm h' ((List.perm_ext_iff_of_nodup h.nodup h'.nodup).mpr same)

/-- **What the identities show is all** that there is to rows in order. -/
theorem InOrder.ext (h : InOrder rows) (h' : InOrder rows')
    (same : ∀ id, rows.filter (·.id == id) = rows'.filter (·.id == id)) : rows = rows' := by
  refine h.eq_of_mem_iff h' fun row => ?_
  have shown : ∀ rows : List LogRow, row ∈ rows.filter (·.id == row.id) ↔ row ∈ rows := by
    simp
  rw [← shown rows, same, shown]

/-- Under an identity stands the row that is put in there, or what was there before. -/
theorem InOrder.filter_id_put (h : InOrder rows) (row : LogRow) (id : String) :
    (OrderedLogs.put row rows).filter (·.id == id) =
      if row.id == id then [row] else rows.filter (·.id == id) := by
  have placed : ((OrderedLogs.put row rows).filter (·.id == id)).Perm
      ((row :: rows.filter (·.key != row.key)).filter (·.id == id)) := (perm_put h).filter _
  rw [List.filter_cons, List.filter_filter] at placed
  split_ifs at placed ⊢ with own
  · have others : rows.filter (fun r => r.id == id && r.key != row.key) = [] := by
      rw [List.filter_eq_nil_iff]
      intro r _
      simp [← eq_of_beq own, ← id_eq_iff]
    rw [others] at placed
    exact List.perm_singleton.mp placed
  · have others : rows.filter (fun r => r.id == id && r.key != row.key) =
        rows.filter (·.id == id) := by
      refine List.filter_congr fun r _ => ?_
      cases here : r.id == id
      · rfl
      · have apart : r.key ≠ row.key := by
          intro same
          exact own (by rw [← id_eq_iff.mpr same, here])
        simpa using apart
    rw [others] at placed
    exact InOrder.eq_of_perm ((h.put row).filter _) (h.filter _) placed

section

variable {memory : OrderedLogs}

theorem InOrder.insert (h : InOrder memory.rows) (batch : List LogRow) :
    InOrder (memory.insert batch).rows :=
  List.foldlRecOn batch _ h fun _ ordered row _ => ordered.put row

theorem InOrder.filter_id_insert (h : InOrder memory.rows) (batch : List LogRow) (id : String) :
    (memory.insert batch).rows.filter (·.id == id) =
      (lastOf id batch).elim (memory.rows.filter (·.id == id)) fun row => [row] :=
  read_foldl InOrder (List.filter (·.id == id)) (fun _ row ordered => ordered.put row)
    (fun _ row ordered => ordered.filter_id_put row id) batch h

end

/-! ## The two tables -/

/-- Either table takes the lines of the rows in by itself. -/
theorem LogTables.insert_eq (tables : LogTables) (batch : List LogRow) :
    tables.insert batch =
      ⟨batch.foldl (replaceLines (·.id) (·.id) fun row => [LogLine.ofRow row]) tables.logs,
        batch.foldl (replaceLines (·.logId) (·.id) fun row => row.args.map (ArgLine.ofArg row.id))
          tables.args⟩ := by
  induction batch generalizing tables with
  | nil => rfl
  | cons row batch ih => exact ih (tables.put row)

theorem id_of_mem_line (row : LogRow) : ∀ line ∈ [LogLine.ofRow row], line.id = row.id := by
  intro line hl
  rw [List.mem_singleton.mp hl]
  rfl

/-! ## Either store -/

/-- **What a log store holds under an identity:** rows in process, or lines of both tables. -/
inductive LogRecord where
  | rows (rows : List LogRow)
  | lines (logs : List LogLine) (args : List ArgLine)
deriving DecidableEq, Repr

namespace LogStore

variable {store : LogStore}

/-- What stands under an identity. -/
def recordAt : LogStore → String → LogRecord
  | memory s, id => .rows (s.rows.filter (·.id == id))
  | tables t, id => .lines (t.logs.filter (·.id == id)) (t.args.filter (·.logId == id))

/-- What a row is in the store. -/
def record : LogStore → LogRow → LogRecord
  | memory _, row => .rows [row]
  | tables _, row => .lines [LogLine.ofRow row] (row.args.map (ArgLine.ofArg row.id))

/-- Rows in process stand in the order of the chain. Tables may hold any lines. -/
def Ordered : LogStore → Prop
  | memory s => InOrder s.rows
  | tables _ => True

theorem insert_nil (store : LogStore) : store.insert [] = store := by
  cases store <;> rfl

theorem Ordered.insert (h : store.Ordered) (batch : List LogRow) : (store.insert batch).Ordered := by
  cases store with
  | memory s =>
    show InOrder (s.insert batch).rows
    exact InOrder.insert h batch
  | tables t => trivial

/-- **A batch overrides what a store holds:** under every identity stands the last row of the batch
that has it, and what was there before if there is none. -/
theorem recordAt_insert (h : store.Ordered) (batch : List LogRow) (id : String) :
    (store.insert batch).recordAt id = (lastOf id batch).elim (store.recordAt id) store.record := by
  cases store with
  | memory s =>
    rw [insert, recordAt, InOrder.filter_id_insert h]
    cases lastOf id batch <;> rfl
  | tables t =>
    rw [insert, LogTables.insert_eq, recordAt, filter_foldl_replaceLines id_of_mem_line,
      filter_foldl_replaceLines fun _ => logId_of_mem_args, ← lastOf]
    cases lastOf id batch <;> rfl

/-- **The same batch again changes nothing.** -/
theorem insert_insert (h : store.Ordered) (batch : List LogRow) :
    (store.insert batch).insert batch = store.insert batch := by
  cases store with
  | memory s =>
    have once : InOrder (s.insert batch).rows := InOrder.insert h batch
    have same : ((s.insert batch).insert batch).rows = (s.insert batch).rows := by
      refine (InOrder.insert once batch).ext once fun id => ?_
      rw [InOrder.filter_id_insert once, InOrder.filter_id_insert h]
      cases lastOf id batch <;> rfl
    exact congrArg (fun rows => memory ⟨rows⟩) same
  | tables t =>
    show tables ((t.insert batch).insert batch) = tables (t.insert batch)
    simp only [LogTables.insert_eq, foldl_replaceLines_twice id_of_mem_line,
      foldl_replaceLines_twice fun _ => logId_of_mem_args]

end LogStore

end TransferLedger
