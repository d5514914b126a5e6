/-
# TransferLedger.Proofs.LogStore.Order -- rows in process stay in the order of the chain

The rows are strictly ordered by their place in the chain, so no two have one place. A row that is
put in takes its place in the order, and the row that was there is gone.
-/

import Mathlib.Data.List.Nodup
import Mathlib.Data.List.Perm.Basic
import TransferLedger.LogStore.Memory

namespace TransferLedger

/-! ## Places -/

theorem keyBefore_iff (a b : Nat × Nat × Nat) :
    keyBefore a b = true ↔
      a.1 < b.1 ∨ (a.1 = b.1 ∧ (a.2.1 < b.2.1 ∨ (a.2.1 = b.2.1 ∧ a.2.2 < b.2.2))) := by
  simp [keyBefore]

theorem keyBefore_trans {a b c : Nat × Nat × Nat} (h : keyBefore a b = true)
    (h' : keyBefore b c = true) : keyBefore a c = true := by
  rw [keyBefore_iff] at h h' ⊢
  omega

theorem ne_of_keyBefore {a b : Nat × Nat × Nat} (h : keyBefore a b = true) : a ≠ b := by
  rintro rfl
  rw [keyBefore_iff] at h
  omega

theorem keyBefore_total {a b : Nat × Nat × Nat} (h : ¬keyBefore a b = true) (ne : a ≠ b) :
    keyBefore b a = true := by
  obtain ⟨a₁, a₂, a₃⟩ := a
  obtain ⟨b₁, b₂, b₃⟩ := b
  rw [keyBefore_iff] at h ⊢
  simp only [ne_eq, Prod.mk.injEq] at h ne ⊢
  omega

/-! ## Rows -/

/-- The order of rows by their place in the chain. -/
def InOrder (rows : List LogRow) : Prop := rows.Pairwise fun a b => keyBefore a.key b.key

/-- Rows of one place are the same row. -/
theorem InOrder.eq_of_key {rows : List LogRow} (h : InOrder rows) {a b : LogRow} (ha : a ∈ rows)
    (hb : b ∈ rows) (same : a.key = b.key) : a = b := by
  have distinct : (rows.map LogRow.key).Nodup := by
    rw [List.Nodup, List.pairwise_map]
    exact h.imp ne_of_keyBefore
  exact List.inj_on_of_nodup_map distinct ha hb same

/-- Rows behind a place are at other places. -/
theorem filter_key_of_before {row : LogRow} {rows : List LogRow}
    (h : ∀ r ∈ rows, keyBefore row.key r.key = true) :
    rows.filter (·.key != row.key) = rows := by
  rw [List.filter_eq_self]
  intro r hr
  rw [bne_iff_ne]
  exact (ne_of_keyBefore (h r hr)).symm

/-- **Putting a row in** leaves the row and all rows at other places. -/
theorem perm_put {row : LogRow} {rows : List LogRow} (h : InOrder rows) :
    (OrderedLogs.put row rows).Perm (row :: rows.filter (·.key != row.key)) := by
  induction rows with
  | nil => exact List.Perm.refl _
  | cons r rest ih =>
    obtain ⟨behind, ordered⟩ := List.pairwise_cons.mp h
    rw [OrderedLogs.put]
    split_ifs with before same
    · have all : ∀ x ∈ r :: rest, keyBefore row.key x.key = true := by
        intro x hx
        rcases List.mem_cons.mp hx with rfl | later
        · exact before
        · exact keyBefore_trans before (behind x later)
      rw [filter_key_of_before all]
    · rw [List.filter_cons_of_neg (by simp [same]), filter_key_of_before (same ▸ behind)]
    · rw [List.filter_cons_of_pos (by simp [Ne.symm same])]
      exact ((ih ordered).cons r).trans (List.Perm.swap row r _)

theorem mem_put {row r : LogRow} {rows : List LogRow} (h : InOrder rows) :
    r ∈ OrderedLogs.put row rows ↔ r = row ∨ (r ∈ rows ∧ r.key ≠ row.key) := by
  rw [(perm_put h).mem_iff, List.mem_cons, List.mem_filter, bne_iff_ne]

/-- **Putting a row in keeps the order.** -/
theorem InOrder.put {rows : List LogRow} (h : InOrder rows) (row : LogRow) :
    InOrder (OrderedLogs.put row rows) := by
  induction rows with
  | nil => exact List.pairwise_singleton _ row
  | cons r rest ih =>
    obtain ⟨behind, ordered⟩ := List.pairwise_cons.mp h
    rw [OrderedLogs.put]
    split_ifs with before same
    · refine List.pairwise_cons.mpr ⟨fun x hx => ?_, h⟩
      rcases List.mem_cons.mp hx with rfl | later
      · exact before
      · exact keyBefore_trans before (behind x later)
    · exact List.pairwise_cons.mpr ⟨same ▸ behind, ordered⟩
    · refine List.pairwise_cons.mpr ⟨fun x hx => ?_, ih ordered⟩
      rcases (mem_put ordered).mp hx with rfl | ⟨later, _⟩
      · exact keyBefore_total before same
      · exact behind x later

end TransferLedger
