/-
# TransferLedger.Proofs.LogStore.Statement -- what the statement of a query answers

The text of the statement of a query is read back as a selection whose condition means that a line
has the signature and meets the predicate. So the statement answers the field over the lines that the
query selects, in any order in which none comes before an earlier one.
-/

import Mathlib.Data.List.Perm.Basic
import TransferLedger.Proofs.LogStore.Condition

namespace TransferLedger

open TransferLedger.Sql TransferLedger.Text

/-- Whether a query selects a line of the table of logs. -/
def LogTables.selects (tables : LogTables) (q : LogQuery) (line : LogLine) : Bool :=
  line.signature == lower q.signature && tables.holds line q.predicate

/-- The columns that lines are ordered by. -/
def orderColumns : List String := ["block_number", "tx_index", "log_index"]

/-- The tokens that give the order. -/
def orderTokens : List Token :=
  [.keyword .order, .keyword .by, .name "block_number", .comma, .name "tx_index", .comma,
    .name "log_index"]

theorem cuts_order : Cuts " ORDER BY block_number, tx_index, log_index" orderTokens :=
  ⟨⟨"log_index".toList.reverse, false, orderTokens.reverse.tail⟩, by decide +kernel,
    by decide +kernel⟩

theorem selection?_eq {column table : String} {ts : List Token} {s : Reader} {condition : Expr}
    (run : Reader.start.run ts = some s) (read : s.condition? = some condition) :
    selection? (.keyword .select :: .name column :: .keyword .source :: .name table ::
        .keyword .whenever :: (ts ++ orderTokens)) =
      some ⟨column, table, condition, orderColumns, s.parameters⟩ := by
  -- The word for the order ends the condition, as no condition holds it.
  have before : ∀ t ∈ ts, (t != .keyword .order) = true := by
    intro t ht
    rw [bne_iff_ne]
    rintro rfl
    exact Reader.order_notMem_of_run run ht
  have condition : (ts ++ orderTokens).takeWhile (· != .keyword .order) = ts := by
    rw [List.takeWhile_append_of_pos before]
    exact List.append_nil ts
  have order : (ts ++ orderTokens).dropWhile (· != .keyword .order) = orderTokens := by
    rw [List.dropWhile_append_of_pos before]
    rfl
  simp only [selection?, condition, order, run, read, Option.bind_eq_bind, Option.bind_some]
  rfl

/-- **The text of a statement spells a selection** whose condition means what the query selects. -/
theorem ofText?_statement (tables : LogTables) (q : LogQuery) (f : RowField) :
    ∃ condition,
      ofText? (q.statement f).text =
          some ⟨f.name, "tx_logs", condition, orderColumns, (q.statement f).bound.length⟩ ∧
        Means tables.database (q.statement f).bound condition (fun line => [line.cells])
          (tables.selects q) := by
  let signature : Fragment := ⟨"signature = ?", [.text (lower q.signature)]⟩
  have operand : Operand tables signature fun line => line.signature == lower q.signature :=
    operand_field .signature (lower q.signature)
  obtain ⟨ts, cut, reads⟩ := (operand.series .and).append (operand_condition q.predicate)
  obtain ⟨front, n, e, run, means⟩ := reads [] 0
  have bound : (q.statement f).bound =
      (signature ++ .plain Joint.and.separator ++ q.predicate.condition).bound := by
    simp [LogQuery.statement, Fragment.plain, signature]
  have opening : CutsWhole ("SELECT " ++ f.name ++ " FROM tx_logs WHERE ")
      [.keyword .select, .name f.name, .keyword .source, .name "tx_logs", .keyword .whenever] := by
    cases f <;> rfl
  have tokens : tokens? (q.statement f).text = _ :=
    ((opening.append cut).append ⟨' ', rfl, rfl⟩ cuts_order).tokens?
  refine ⟨Clause.after .and front (Clause.negated e n), ?_, means _ ?_⟩
  · rw [ofText?, tokens, bound]
    rw [Nat.zero_add] at run
    exact selection?_eq run (Joint.and.disjoined_clause front n e)
  · rw [bound]
    exact List.prefix_rfl

/-! ## Answers -/

theorem notAfter_iff (a b : LogLine) :
    NotAfter [.integer a.blockNumber.toInt, .integer a.txIndex.toInt, .integer a.logIndex.toInt]
        [.integer b.blockNumber.toInt, .integer b.txIndex.toInt, .integer b.logIndex.toInt] ↔
      LogLine.notAfter a b = true := by
  simp only [NotAfter, LogLine.notAfter, Bool.or_eq_true, Bool.and_eq_true, beq_iff_eq,
    decide_eq_true_eq, Int64.lt_iff_toInt_lt, Int64.le_iff_toInt_le, ← Int64.toInt_inj, and_true,
    Int.le_iff_lt_or_eq]

/-- **What the statement of a query answers:** the field over the lines that the query selects, in
any order in which none comes before an earlier one. -/
theorem answers_statement_iff {tables : LogTables} {q : LogQuery} {f : RowField}
    {answer : List Value} :
    Answers (q.statement f).text tables.database (q.statement f).bound answer ↔
      ∃ lines : List LogLine, lines.Perm (tables.logs.filter (tables.selects q)) ∧
        lines.Pairwise (fun a b => LogLine.notAfter a b) ∧
        answer = lines.map fun line => .text (line.read f) := by
  obtain ⟨condition, spelled, means⟩ := ofText?_statement tables q f
  have table : tables.database "tx_logs" = some (tables.logs.map LogLine.cells) := rfl
  have selected : kept (fun row => truth? tables.database (q.statement f).bound condition [row])
      (tables.logs.map LogLine.cells) =
        some ((tables.logs.filter (tables.selects q)).map LogLine.cells) :=
    kept_map (fun line => means line) tables.logs
  have column : ∀ lines : List LogLine,
      (lines.map LogLine.cells).mapM (fun row => row.lookup f.name) =
        some (lines.map fun line => .text (line.read f)) :=
    mapM_map (lookup_name f)
  have places : ∀ lines : List LogLine,
      (lines.map LogLine.cells).mapM (fun row => orderColumns.mapM fun name => row.lookup name) =
        some (lines.map fun line => [.integer line.blockNumber.toInt, .integer line.txIndex.toInt,
          .integer line.logIndex.toInt]) :=
    mapM_map fun _ => rfl
  constructor
  · rintro ⟨s, hs, _, rows, chosen, sorted, keys, hrows, hchosen, perm, hkeys, order, hanswer⟩
    obtain rfl : s = _ := Option.some.inj (hs.symm.trans spelled)
    obtain rfl : rows = _ := Option.some.inj (hrows.symm.trans table)
    obtain rfl : chosen = _ := Option.some.inj (hchosen.symm.trans selected)
    -- A rearrangement of the cells of some lines is the cells of a rearrangement of the lines.
    obtain ⟨lines, rfl, rearranged⟩ : Relation.Comp (· = List.map LogLine.cells ·) List.Perm sorted _ := by
      rw [List.eq_map_comp_perm]
      exact perm
    obtain rfl : keys = _ := Option.some.inj (hkeys.symm.trans (places lines))
    obtain rfl : answer = _ := Option.some.inj (hanswer.symm.trans (column lines))
    rw [List.pairwise_map] at order
    exact ⟨lines, rearranged, order.imp fun h => (notAfter_iff _ _).mp h, rfl⟩
  · rintro ⟨lines, perm, order, rfl⟩
    refine ⟨_, spelled, rfl, _, _, _, _, table, selected, perm.map _, places lines, ?_, column lines⟩
    rw [List.pairwise_map]
    exact order.imp fun h => (notAfter_iff _ _).mpr h

end TransferLedger
