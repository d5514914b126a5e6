/-
# TransferLedger.Proofs.LogStore.Mirror -- the tables hold what the store in process holds

The invariant that carries the comparison: the lines of the table of logs are those of the rows, in
some order, and the lines of the table of arguments under the identity of a row are the arguments of
that row. Putting a row in keeps it, as the tables drop the lines of an identity where the store in
process drops the row of a place. Where it stands, a query selects the same rows on both sides.
-/

import TransferLedger.Proofs.LastOfEach
import TransferLedger.Proofs.LogStore.Keys
import TransferLedger.Proofs.LogStore.Order
import TransferLedger.Proofs.LogStore.Statement

namespace TransferLedger

open TransferLedger.Text

/-- **The tables hold some rows.** -/
structure Mirrors (tables : LogTables) (memory : OrderedLogs) : Prop where
  ordered : InOrder memory.rows
  logs : tables.logs.Perm (memory.rows.map LogLine.ofRow)
  args : ∀ row ∈ memory.rows,
    tables.args.filter (·.logId == row.id) = row.args.map (ArgLine.ofArg row.id)

/-! ## Putting rows in -/

theorem mirrors_empty : Mirrors .empty .empty where
  ordered := List.Pairwise.nil
  logs := List.Perm.nil
  args := fun _ h => absurd h List.not_mem_nil

theorem logId_of_mem_args {row : LogRow} :
    ∀ line ∈ row.args.map (ArgLine.ofArg row.id), line.logId = row.id := by
  intro line hl
  obtain ⟨a, _, rfl⟩ := List.mem_map.mp hl
  rfl

variable {tables : LogTables} {memory : OrderedLogs}

/-- **Putting a row in keeps the tables and the rows together.** -/
theorem Mirrors.put (h : Mirrors tables memory) (row : LogRow) :
    Mirrors (tables.put row) ⟨OrderedLogs.put row memory.rows⟩ where
  ordered := h.ordered.put row
  logs := by
    have others : (tables.logs.filter (·.id != row.id)).Perm
        ((memory.rows.filter (·.key != row.key)).map LogLine.ofRow) := by
      have dropped : (memory.rows.map LogLine.ofRow).filter (·.id != row.id) =
          (memory.rows.filter (·.key != row.key)).map LogLine.ofRow := by
        rw [List.filter_map]
        congr 2
        funext r
        show (r.id != row.id) = (r.key != row.key)
        rw [Bool.eq_iff_iff, bne_iff_ne, bne_iff_ne, ne_eq, ne_eq, id_eq_iff]
      rw [← dropped]
      exact h.logs.filter _
    calc tables.logs.filter (·.id != row.id) ++ [LogLine.ofRow row]
      _ |>.Perm _ := List.perm_append_comm
      _ |>.Perm _ := others.cons (LogLine.ofRow row)
      _ |>.Perm _ := ((perm_put h.ordered).map LogLine.ofRow).symm
  args := by
    intro r hr
    rw [LogTables.put, filter_replaced logId_of_mem_args]
    rcases (mem_put h.ordered).mp hr with rfl | ⟨old, apart⟩
    · rw [if_pos rfl]
    · rw [if_neg fun same => apart (id_eq_iff.mp same.symm), h.args r old]

theorem Mirrors.insert (h : Mirrors tables memory) (rows : List LogRow) :
    Mirrors (tables.insert rows) (memory.insert rows) := by
  induction rows generalizing tables memory with
  | nil => exact h
  | cons row rows ih => exact ih (h.put row)

/-- **Every run of batches keeps the tables and the rows together.** -/
theorem Mirrors.insert_all (h : Mirrors tables memory) (batches : List (List LogRow)) :
    Mirrors (batches.foldl LogTables.insert tables) (batches.foldl OrderedLogs.insert memory) := by
  induction batches generalizing tables memory with
  | nil => exact h
  | cons batch batches ih => exact ih (h.insert batch)

theorem Mirrors.count (h : Mirrors tables memory) : tables.count = memory.count := by
  rw [LogTables.count, h.logs.length_eq, List.length_map]
  rfl

/-! ## Predicates -/

theorem test_eq_of_injective [DecidableEq α] [DecidableEq β] {f : α → β}
    (inj : ∀ {a b}, f a = f b → a = b) (c : Comparison) (a b : α) :
    c.test (f a) (f b) = c.test a b := by
  have iff : f a = f b ↔ a = b := ⟨inj, congrArg f⟩
  cases c <;> simp [Comparison.test, iff]

theorem lineAccepts_ofArg (m : ArgMatch) (logId : String) (a : SlotWord) :
    LogTables.lineAccepts m (ArgLine.ofArg logId a) = m.accepts a := by
  simp only [LogTables.lineAccepts, ArgLine.ofArg, ArgMatch.accepts,
    test_eq_of_injective exponentColumn_injective, test_eq_of_injective limbsText_injective,
    test_eq_of_injective toInt64_injective]

theorem read_ofRow (f : RowField) (row : LogRow) :
    (LogLine.ofRow row).read f = lower (f.read row) := by
  cases f <;> rfl

theorem contains_logId (accepts : ArgLine → Bool) (lines : List ArgLine) (id : String) :
    ((lines.filter accepts).map (·.logId)).contains id =
      (lines.filter (·.logId == id)).any accepts := by
  rw [Bool.eq_iff_iff]
  simp only [List.contains_iff_mem, List.any_eq_true, List.mem_map, List.mem_filter, beq_iff_eq]
  constructor
  · rintro ⟨a, ⟨mem, accepted⟩, same⟩
    exact ⟨a, ⟨mem, same⟩, accepted⟩
  · rintro ⟨a, ⟨mem, same⟩, accepted⟩
    exact ⟨a, ⟨mem, accepted⟩, same⟩

mutual

/-- **A line meets a predicate exactly when its row does,** by induction on the predicate. -/
theorem Mirrors.holds (h : Mirrors tables memory) {row : LogRow} (hr : row ∈ memory.rows) :
    ∀ p : Predicate, tables.holds (LogLine.ofRow row) p = p.holds row
  | .all parts => h.allHold hr parts
  | .any parts => h.anyHolds hr parts
  | .not inner => congrArg (!·) (h.holds hr inner)
  | .arg search => by
    show ((tables.args.filter (LogTables.lineAccepts search)).map (·.logId)).contains row.id = _
    rw [contains_logId, h.args row hr, List.any_map]
    exact congrArg (row.args.any ·) (funext fun a => lineAccepts_ofArg search row.id a)
  | .field f value => by
    show ((LogLine.ofRow row).read f == lower value) = _
    rw [read_ofRow]
    rfl
termination_by structural p => p

theorem Mirrors.allHold (h : Mirrors tables memory) {row : LogRow} (hr : row ∈ memory.rows) :
    ∀ ps : List Predicate, tables.allHold (LogLine.ofRow row) ps = Predicate.allHold row ps
  | [] => rfl
  | p :: ps => congrArg₂ (· && ·) (h.holds hr p) (h.allHold hr ps)
termination_by structural ps => ps

theorem Mirrors.anyHolds (h : Mirrors tables memory) {row : LogRow} (hr : row ∈ memory.rows) :
    ∀ ps : List Predicate, tables.anyHolds (LogLine.ofRow row) ps = Predicate.anyHolds row ps
  | [] => rfl
  | p :: ps => congrArg₂ (· || ·) (h.holds hr p) (h.anyHolds hr ps)
termination_by structural ps => ps

end

/-! ## Queries -/

theorem Mirrors.selects (h : Mirrors tables memory) (q : LogQuery) {row : LogRow}
    (hr : row ∈ memory.rows) : tables.selects q (LogLine.ofRow row) = q.selects row := by
  rw [LogTables.selects, h.holds hr]
  rfl

/-- **A query selects the lines of the rows that it selects.** -/
theorem Mirrors.filter_selects (h : Mirrors tables memory) (q : LogQuery) :
    (tables.logs.filter (tables.selects q)).Perm ((memory.find q).map LogLine.ofRow) := by
  have same : (memory.rows.map LogLine.ofRow).filter (tables.selects q) =
      (memory.find q).map LogLine.ofRow := by
    rw [List.filter_map, OrderedLogs.find]
    congr 1
    exact List.filter_congr fun row hr => h.selects q hr
  rw [← same]
  exact h.logs.filter _

/-! ## The order of lines -/

theorem notAfter_eq_true_iff (a b : LogLine) :
    LogLine.notAfter a b = true ↔
      a.blockNumber.toInt < b.blockNumber.toInt ∨ (a.blockNumber.toInt = b.blockNumber.toInt ∧
        (a.txIndex.toInt < b.txIndex.toInt ∨ (a.txIndex.toInt = b.txIndex.toInt ∧
          a.logIndex.toInt ≤ b.logIndex.toInt))) := by
  simp only [LogLine.notAfter, Bool.or_eq_true, Bool.and_eq_true, beq_iff_eq, decide_eq_true_eq,
    Int64.lt_iff_toInt_lt, Int64.le_iff_toInt_le, ← Int64.toInt_inj]

/-- A selection is in order. -/
theorem pairwise_select (tables : LogTables) (q : LogQuery) :
    (tables.select q).Pairwise fun a b => LogLine.notAfter a b := by
  apply List.pairwise_mergeSort
  · intro a b c first second
    rw [notAfter_eq_true_iff] at first second ⊢
    omega
  · intro a b
    rw [Bool.or_eq_true, notAfter_eq_true_iff, notAfter_eq_true_iff]
    omega

theorem select_perm (tables : LogTables) (q : LogQuery) :
    (tables.select q).Perm (tables.logs.filter (tables.selects q)) :=
  List.mergeSort_perm _ _

theorem Mirrors.perm_select (h : Mirrors tables memory) (q : LogQuery) :
    (tables.select q).Perm ((memory.find q).map LogLine.ofRow) :=
  (select_perm tables q).trans (h.filter_selects q)

/-- **The order of the lines of a selection is the only one,** as no two lines have one place. -/
theorem Mirrors.eq_select (h : Mirrors tables memory) {q : LogQuery} {lines : List LogLine}
    (perm : lines.Perm (tables.logs.filter (tables.selects q)))
    (order : lines.Pairwise fun a b => LogLine.notAfter a b) : lines = tables.select q := by
  refine List.Perm.eq_of_pairwise (fun a b ha hb first second => ?_) order
    (pairwise_select tables q) (perm.trans (select_perm tables q).symm)
  obtain ⟨row, found, rfl⟩ := List.mem_map.mp ((perm.trans (h.filter_selects q)).mem_iff.mp ha)
  obtain ⟨row', found', rfl⟩ := List.mem_map.mp ((h.perm_select q).mem_iff.mp hb)
  simp only [notAfter_eq_true_iff, LogLine.ofRow] at first second
  have block : row.blockNumber = row'.blockNumber :=
    toInt64_injective (Int64.toInt_inj.mp (by omega))
  have transaction : row.txIndex = row'.txIndex :=
    toInt64_injective (Int64.toInt_inj.mp (by omega))
  have log : row.logIndex = row'.logIndex :=
    toInt64_injective (Int64.toInt_inj.mp (by omega))
  have place : row.key = row'.key := by simp only [LogRow.key, block, transaction, log]
  rw [h.ordered.eq_of_key (List.mem_of_mem_filter found) (List.mem_of_mem_filter found') place]

end TransferLedger
