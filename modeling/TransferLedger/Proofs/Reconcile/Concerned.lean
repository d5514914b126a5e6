/-
# TransferLedger.Proofs.Reconcile.Concerned -- which tokens a delivery concerns

A delivery with a transaction concerns the contracts that its transfers name; one without concerns the
contracts of the stored transfers from or to the owner, in the order of the chain, where a row that was
put in at a place stands for all that were put in there before. Either way each spelling counts once,
where it occurs first. This is said by the logs of the transaction and by the rows that were put in,
without the functions that find the tokens.
-/

import TransferLedger.Proofs.Delivery.Tokens
import TransferLedger.Proofs.LogStore.Override
import TransferLedger.Proofs.Reconcile.Touched

namespace TransferLedger

open TransferLedger.Text

/-! ## Distinct texts -/

/-- **The distinct ones of some texts,** in the order in which they occur first. -/
structure DistinctOf (texts all : List String) : Prop where
  mem : ∀ s, s ∈ texts ↔ s ∈ all
  order : texts.Pairwise fun s t => all.idxOf s < all.idxOf t

theorem distinctOf_distinctValues (all : List String) : DistinctOf (distinctValues all) all :=
  ⟨fun _ => mem_distinctValues, pairwise_idxOf_distinctValues all⟩

/-- There is one list of them. -/
theorem DistinctOf.unique {texts texts' all : List String} (h : DistinctOf texts all)
    (h' : DistinctOf texts' all) : texts = texts' := by
  have nodup : ∀ {texts}, DistinctOf texts all → texts.Nodup := fun h =>
    h.order.imp fun before same => absurd (same ▸ before) (Nat.lt_irrefl _)
  have same : texts.Perm texts' := (List.perm_ext_iff_of_nodup (nodup h) (nodup h')).mpr fun s =>
    (h.mem s).trans (h'.mem s).symm
  exact same.eq_of_pairwise (fun _ _ _ _ before after => absurd (before.trans after) (Nat.lt_irrefl _))
    h.order h'.order

/-! ## Stored rows -/

namespace LogRow

/-- Whether two rows are of one block, transaction and log number. -/
def samePlace (a b : LogRow) : Bool :=
  a.blockNumber == b.blockNumber && a.txIndex == b.txIndex && a.logIndex == b.logIndex

/-- A row that comes before another in the chain. -/
def Precedes (a b : LogRow) : Prop :=
  a.blockNumber < b.blockNumber ∨ a.blockNumber = b.blockNumber ∧
    (a.txIndex < b.txIndex ∨ a.txIndex = b.txIndex ∧ a.logIndex < b.logIndex)

theorem keyBefore_key_iff {a b : LogRow} : keyBefore a.key b.key = true ↔ a.Precedes b := by
  simp only [keyBefore_iff, key, Precedes, UInt64.lt_iff_toNat_lt, UInt64.toNat_inj]

theorem samePlace_eq_id (a b : LogRow) : a.samePlace b = (a.id == b.id) := by
  rw [Bool.eq_iff_iff, beq_iff_eq, id_eq_iff]
  simp only [samePlace, key, Bool.and_eq_true, beq_iff_eq, Prod.mk.injEq, UInt64.toNat_inj, and_assoc]

end LogRow

/-- **The rows that a store holds after some batches:** of each place the last that was put in, in the
order of the chain. -/
structure Holds (batches : List (List LogRow)) (rows : List LogRow) : Prop where
  last : ∀ row, row ∈ rows ↔ (batches.flatten.filter (·.samePlace row)).getLast? = some row
  order : rows.Pairwise LogRow.Precedes

theorem holds_batches (batches : List (List LogRow)) :
    Holds batches (batches.foldl OrderedLogs.insert .empty).rows where
  last := by
    intro row
    have own : batches.flatten.filter (·.samePlace row) = batches.flatten.filter (·.id == row.id) :=
      List.filter_congr fun r _ => r.samePlace_eq_id row
    have stands : (OrderedLogs.empty.insert batches.flatten).rows.filter (·.id == row.id) =
        (lastOf row.id batches.flatten).elim [] fun r => [r] :=
      InOrder.filter_id_insert mirrors_empty.ordered batches.flatten row.id
    have shown : row ∈ (OrderedLogs.empty.insert batches.flatten).rows ↔
        row ∈ (lastOf row.id batches.flatten).elim [] fun r => [r] := by
      rw [← stands, List.mem_filter, and_iff_left (beq_self_eq_true row.id)]
    rw [OrderedLogs.insert_flatten, shown, own, ← lastOf]
    cases lastOf row.id batches.flatten <;> simp [eq_comm]
  order := by
    have ordered := (mirrors_batches batches).ordered
    exact ordered.imp fun before => LogRow.keyBefore_key_iff.mp before

/-- There is one list of them. -/
theorem Holds.unique {batches : List (List LogRow)} {rows rows' : List LogRow}
    (h : Holds batches rows) (h' : Holds batches rows') : rows = rows' := by
  have ordered : ∀ {rows}, Holds batches rows → InOrder rows := fun h =>
    h.order.imp LogRow.keyBefore_key_iff.mpr
  exact (ordered h).eq_of_mem_iff (ordered h') fun row => (h.last row).trans (h'.last row).symm

/-! ## The tokens of a delivery -/

instance (log : TransactionLog) : Decidable log.Transfers :=
  decidable_of_iff _ TransactionLog.isTransfer_iff

/-- **The tokens that a delivery concerns:** the contracts of the transfers of its transaction, or else
those of the stored transfers from or to the owner. -/
def Concerns (batches : List (List LogRow)) (owner : Word) :
    Option Transaction → List String → Prop
  | some t, tokens => DistinctOf tokens ((t.logs.filter fun log => log.Transfers).map (·.address))
  | none, tokens => ∃ rows, Holds batches rows ∧
      DistinctOf tokens ((rows.filter (·.moves owner)).map (·.address))

theorem concerns_tokens (batches : List (List LogRow)) (owner : Word) (t : Transaction) :
    Concerns batches owner (some t) t.tokens := by
  have same : t.logs.filter (·.isTransfer) = t.logs.filter fun log => log.Transfers :=
    List.filter_congr fun log _ => by
      rw [Bool.eq_iff_iff, decide_eq_true_iff, TransactionLog.isTransfer_iff]
  show DistinctOf t.tokens _
  rw [← same]
  exact distinctOf_distinctValues _

/-- **The tokens are told** by the transaction, or else by the rows and the owner. -/
theorem Concerns.unique {batches : List (List LogRow)} {owner : Word} {t : Option Transaction}
    {tokens tokens' : List String} (h : Concerns batches owner t tokens)
    (h' : Concerns batches owner t tokens') : tokens = tokens' := by
  cases t with
  | some t => exact DistinctOf.unique h h'
  | none =>
    obtain ⟨rows, holds, distinct⟩ := h
    obtain ⟨rows', holds', distinct'⟩ := h'
    obtain rfl := holds.unique holds'
    exact distinct.unique distinct'

theorem concerns_touchedTokens (batches : List (List LogRow)) (owner : Word) :
    Concerns batches owner none (touchedTokens batches owner) :=
  ⟨_, holds_batches batches, distinctOf_distinctValues _⟩

end TransferLedger
