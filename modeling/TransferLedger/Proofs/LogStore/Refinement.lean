/-
# TransferLedger.Proofs.LogStore.Refinement -- the tables answer as the store in process

Two stores that are given the same batches hold the same rows. The statement of a query can return
only one list, and that is what the store in process returns with every value in lower case. The
order is the same as long as the numbers of the rows are the same as signed words.
-/

import TransferLedger.Proofs.Log.Layout
import TransferLedger.Proofs.LogStore.Distinct
import TransferLedger.Proofs.LogStore.Mirror

namespace TransferLedger

open TransferLedger.Text

/-- The place of a row is the same in signed words. -/
def LogRow.FitsSigned (row : LogRow) : Prop :=
  row.blockNumber.toNat < 2 ^ 63 ∧ row.txIndex.toNat < 2 ^ 63 ∧ row.logIndex.toNat < 2 ^ 63

instance (row : LogRow) : Decidable row.FitsSigned :=
  inferInstanceAs (Decidable (_ ∧ _ ∧ _))

/-- **What the tables can return for a query:** the distinct values of an answer to its statement. -/
def LogTables.Returns (tables : LogTables) (f : RowField) (q : LogQuery) (values : List String) :
    Prop :=
  ∃ texts : List String,
    Sql.Answers (q.statement f).text tables.database (q.statement f).bound (texts.map .text) ∧
      values = distinctValues texts

variable {tables : LogTables} {memory : OrderedLogs}

/-! ## One answer -/

/-- **The tables return what is distinct over their selection,** and nothing else. -/
theorem Mirrors.returns_iff (h : Mirrors tables memory) {f : RowField} {q : LogQuery}
    {values : List String} : tables.Returns f q values ↔ values = tables.distinct f q := by
  constructor
  · rintro ⟨texts, answers, rfl⟩
    obtain ⟨lines, perm, order, same⟩ := answers_statement_iff.mp answers
    have read : texts = lines.map (·.read f) := by
      refine List.map_injective_iff.mpr (fun _ _ => Sql.Value.text.inj) (same.trans ?_)
      rw [List.map_map]
      rfl
    rw [read, h.eq_select perm order]
    rfl
  · rintro rfl
    refine ⟨(tables.select q).map (·.read f), answers_statement_iff.mpr ?_, rfl⟩
    refine ⟨tables.select q, select_perm tables q, pairwise_select tables q, ?_⟩
    rw [List.map_map]
    rfl

/-! ## Rows in order -/

theorem notAfter_of_keyBefore {a b : LogRow} (ha : a.FitsSigned) (hb : b.FitsSigned)
    (before : keyBefore a.key b.key = true) :
    LogLine.notAfter (LogLine.ofRow a) (LogLine.ofRow b) = true := by
  obtain ⟨blockA, transactionA, logA⟩ := ha
  obtain ⟨blockB, transactionB, logB⟩ := hb
  rw [keyBefore_iff] at before
  rw [notAfter_eq_true_iff]
  simp only [LogLine.ofRow, LogRow.key, toInt_toInt64, *] at before ⊢
  omega

/-- **Where the numbers are the same as signed words,** so is the order. -/
theorem Mirrors.select_eq (h : Mirrors tables memory)
    (small : ∀ row ∈ memory.rows, row.FitsSigned) (q : LogQuery) :
    tables.select q = (memory.find q).map LogLine.ofRow := by
  refine (h.eq_select (h.filter_selects q).symm ?_).symm
  rw [List.pairwise_map]
  have ordered : InOrder (memory.find q) := h.ordered.filter _
  refine List.Pairwise.imp_of_mem (fun ha hb before => ?_) ordered
  exact notAfter_of_keyBefore (small _ (List.mem_of_mem_filter ha))
    (small _ (List.mem_of_mem_filter hb)) before

/-! ## Values -/

theorem distinct_map_lower (memory : OrderedLogs) (f : RowField) (q : LogQuery) :
    distinctValues ((memory.distinct f q).map lower) =
      distinctValues (((memory.find q).map LogLine.ofRow).map (·.read f)) := by
  rw [OrderedLogs.distinct, distinctValues_map, List.map_map, List.map_map]
  congr 2
  funext row
  exact (read_ofRow f row).symm

theorem Mirrors.distinct_perm (h : Mirrors tables memory) (f : RowField) (q : LogQuery) :
    (tables.distinct f q).Perm (distinctValues ((memory.distinct f q).map lower)) := by
  rw [distinct_map_lower]
  exact distinctValues_perm ((h.perm_select q).map _)

theorem Mirrors.distinct_eq (h : Mirrors tables memory)
    (small : ∀ row ∈ memory.rows, row.FitsSigned) (f : RowField) (q : LogQuery) :
    tables.distinct f q = distinctValues ((memory.distinct f q).map lower) := by
  rw [distinct_map_lower, ← h.select_eq small q]
  rfl

/-- Rows that are in lower case already give the same values. -/
theorem distinct_map_lower_of_lower {f : RowField} {q : LogQuery}
    (low : ∀ row ∈ memory.rows, lower (f.read row) = f.read row) :
    distinctValues ((memory.distinct f q).map lower) = memory.distinct f q := by
  have same : (memory.distinct f q).map lower = memory.distinct f q := by
    refine List.map_congr_left (fun v hv => ?_) |>.trans (List.map_id _)
    obtain ⟨row, found, rfl⟩ := List.mem_map.mp (mem_distinctValues.mp hv)
    exact low row (List.mem_of_mem_filter found)
  rw [same]
  exact distinctValues_of_nodup (nodup_distinctValues _)

/-! ## Batches -/

/-- The rows of a store are rows that were put in. -/
theorem OrderedLogs.mem_insert {row : LogRow} {batch : List LogRow} (h : InOrder memory.rows)
    (hr : row ∈ (memory.insert batch).rows) : row ∈ memory.rows ∨ row ∈ batch := by
  induction batch generalizing memory with
  | nil => exact .inl hr
  | cons first batch ih =>
    rcases ih (h.put first) hr with stored | later
    · rcases (mem_put h).mp stored with rfl | ⟨old, _⟩
      · exact .inr List.mem_cons_self
      · exact .inl old
    · exact .inr (List.mem_cons_of_mem first later)

theorem OrderedLogs.insert_flatten (memory : OrderedLogs) (batches : List (List LogRow)) :
    batches.foldl insert memory = memory.insert batches.flatten := by
  induction batches generalizing memory with
  | nil => rfl
  | cons batch batches ih =>
    rw [List.foldl_cons, ih, List.flatten_cons, insert, insert, insert, List.foldl_append]

variable {batches : List (List LogRow)}

theorem mirrors_batches (batches : List (List LogRow)) :
    Mirrors (batches.foldl LogTables.insert .empty) (batches.foldl OrderedLogs.insert .empty) :=
  mirrors_empty.insert_all batches

theorem mem_batches {row : LogRow}
    (hr : row ∈ (batches.foldl OrderedLogs.insert .empty).rows) : row ∈ batches.flatten := by
  rw [OrderedLogs.insert_flatten] at hr
  exact (OrderedLogs.mem_insert mirrors_empty.ordered hr).resolve_left List.not_mem_nil

/-- **Rows of logs give one list in both stores,** as they are in lower case. -/
theorem distinct_of_logs (small : ∀ row ∈ batches.flatten, row.FitsSigned)
    (logs : ∀ row ∈ batches.flatten, ∃ log, LogRow.ofLog log = .ok row) (f : RowField)
    (q : LogQuery) :
    (batches.foldl LogTables.insert .empty).distinct f q =
      (batches.foldl OrderedLogs.insert .empty).distinct f q := by
  rw [(mirrors_batches batches).distinct_eq (fun row hr => small row (mem_batches hr))]
  apply distinct_map_lower_of_lower
  intro row hr
  obtain ⟨log, made⟩ := logs row (mem_batches hr)
  obtain ⟨signature, address⟩ := LogRow.lower_of_ofLog made
  cases f with
  | address => exact address
  | signature => exact signature

/-- **The tables refine the store in process.** After any batches of any rows, both hold as many
rows. The statement of any query can return exactly one list: the values that the store in process
returns, in lower case and each once, and in the same order if every number is below half the range of
a word. Rows of logs are in lower case, so for them the lists are the same. -/
theorem tables_refine_memory (batches : List (List LogRow)) :
    let tables := batches.foldl LogTables.insert .empty
    let memory := batches.foldl OrderedLogs.insert .empty
    tables.count = memory.count ∧ ∀ (f : RowField) (q : LogQuery),
      (∀ values, tables.Returns f q values ↔ values = tables.distinct f q) ∧
      (tables.distinct f q).Perm (distinctValues ((memory.distinct f q).map lower)) ∧
      ((∀ row ∈ batches.flatten, row.FitsSigned) →
        tables.distinct f q = distinctValues ((memory.distinct f q).map lower) ∧
        ((∀ row ∈ batches.flatten, ∃ log, LogRow.ofLog log = .ok row) →
          tables.distinct f q = memory.distinct f q)) := by
  intro tables memory
  have mirrors : Mirrors tables memory := mirrors_batches batches
  refine ⟨mirrors.count, fun f q => ⟨fun _ => mirrors.returns_iff, mirrors.distinct_perm f q, ?_⟩⟩
  intro small
  exact ⟨mirrors.distinct_eq (fun row hr => small row (mem_batches hr)) f q,
    fun logs => distinct_of_logs small logs f q⟩

/-- A log of one event with one argument. -/
def paidLog (block : UInt64) (address : String) : RawLog where
  blockNumber := block
  txIndex := 0
  logIndex := 0
  removed := false
  address := address
  topics := ["0xAB", "0x05"]
  data := ""

/-- The row of such a log. -/
def paidRow (block : UInt64) (address : String) : LogRow where
  blockNumber := block
  txIndex := 0
  logIndex := 0
  removed := false
  signature := "0xab"
  address := address
  values := ["0xAB", "0x05"]
  dataValuesStart := none
  args := [⟨0, [5], 0⟩]

/-- A query for the logs of the event with that argument. -/
def paidQuery : LogQuery := ⟨"0xaB", .all [.arg (.equal ⟨0, [5], 0⟩), .not (.any [])]⟩

theorem replaced_row_is_forgotten :
    let batches := [[paidRow 7 "0xa"], [paidRow 3 "0xb", paidRow 7 "0xc"]]
    (∀ row ∈ batches.flatten, row.FitsSigned) ∧
      (∀ row ∈ batches.flatten, ∃ log, LogRow.ofLog log = .ok row) ∧
      (batches.foldl LogTables.insert .empty).distinct .address paidQuery = ["0xb", "0xc"] := by
  intro batches
  have small : ∀ row ∈ batches.flatten, row.FitsSigned := by decide +kernel
  have logs : ∀ row ∈ batches.flatten, ∃ log, LogRow.ofLog log = .ok row := by
    intro row hr
    simp only [batches, List.flatten_cons, List.flatten_nil, List.append_nil, List.cons_append,
      List.nil_append, List.mem_cons, List.not_mem_nil, or_false] at hr
    rcases hr with rfl | rfl | rfl
    · exact ⟨paidLog 7 "0xA", by decide +kernel⟩
    · exact ⟨paidLog 3 "0xB", by decide +kernel⟩
    · exact ⟨paidLog 7 "0xC", by decide +kernel⟩
  have same := (((tables_refine_memory batches).2 .address paidQuery).2.2 small).2 logs
  exact ⟨small, logs, same.trans (by decide +kernel)⟩

end TransferLedger
