/-
# TransferLedger.Proofs.LogStore.Keys -- what is kept as text tells the same apart

The tables keep the place of a row as the text of its identity, and the limbs of an argument as the
text of a list. A decimal number holds neither an `x` nor a comma, so the text of an identity gives
back its three numbers and the text of a list its limbs. Words are kept as signed ones, which differ
when the words do.
-/

import Mathlib.Data.List.Basic
import Mathlib.Data.List.TakeWhile
import TransferLedger.LogStore.Tables
import TransferLedger.Proofs.Number.Decimal

namespace TransferLedger

open TransferLedger.Number

theorem notMem_decimal {c : Char} (h : c.isDigit = false) (n : Nat) : c ∉ decimal n := by
  intro hc
  rw [isDigit_of_mem_decimal hc] at h
  cases h

/-- What stands in front of a separator. -/
theorem takeWhile_append {c : Char} {front rest : List Char} (absent : c ∉ front)
    (starts : ∀ d ∈ rest.head?, d = c) : (front ++ rest).takeWhile (· != c) = front := by
  rw [List.takeWhile_append_of_pos]
  · cases rest with
    | nil => exact List.append_nil front
    | cons d ds => simp [starts d rfl]
  · intro d hd
    rw [bne_iff_ne]
    rintro rfl
    exact absent hd

/-- **A separator that neither front holds** tells where the fronts end. -/
theorem fronts_eq {c : Char} {front front' rest rest' : List Char} (absent : c ∉ front)
    (absent' : c ∉ front') (starts : ∀ d ∈ rest.head?, d = c) (starts' : ∀ d ∈ rest'.head?, d = c)
    (h : front ++ rest = front' ++ rest') : front = front' ∧ rest = rest' := by
  have same : front = front' := by
    rw [← takeWhile_append absent starts, h, takeWhile_append absent' starts']
  subst same
  exact ⟨rfl, List.append_cancel_left h⟩

/-! ## Identities -/

theorem toList_id (row : LogRow) :
    row.id.toList = decimal row.blockNumber.toNat ++ 'x' :: (decimal row.txIndex.toNat ++
      'x' :: decimal row.logIndex.toNat) := by
  simp [LogRow.id, decimalText]

/-- **Two rows have one identity exactly when they have one place in the chain.** -/
theorem id_eq_iff {a b : LogRow} : a.id = b.id ↔ a.key = b.key := by
  have absent : ∀ n, 'x' ∉ decimal n := notMem_decimal rfl
  constructor
  · intro h
    have chars : a.id.toList = b.id.toList := congrArg String.toList h
    rw [toList_id, toList_id] at chars
    obtain ⟨block, rest⟩ := fronts_eq (absent _) (absent _) (by simp) (by simp) chars
    obtain ⟨transaction, rest⟩ :=
      fronts_eq (absent _) (absent _) (by simp) (by simp) (List.cons.inj rest).2
    simp [LogRow.key, decimal_injective block, decimal_injective transaction,
      decimal_injective (List.cons.inj rest).2]
  · intro h
    simp only [LogRow.key, Prod.mk.injEq] at h
    simp [LogRow.id, h]

/-! ## Limbs -/

/-- Some numbers in decimal, each behind a comma. -/
def listed : List Nat → List Char
  | [] => []
  | n :: rest => ',' :: (decimal n ++ listed rest)

theorem head_listed (ns : List Nat) : ∀ c ∈ (listed ns).head?, c = ',' := by
  cases ns <;> simp [listed]

theorem listed_injective {ms ns : List Nat} (h : listed ms = listed ns) : ms = ns := by
  have absent : ∀ n, ',' ∉ decimal n := notMem_decimal rfl
  induction ms generalizing ns with
  | nil =>
    cases ns with
    | nil => rfl
    | cons n ns => cases h
  | cons m ms ih =>
    cases ns with
    | nil => cases h
    | cons n ns =>
      obtain ⟨first, rest⟩ := fronts_eq (absent m) (absent n) (head_listed ms) (head_listed ns)
        (List.cons.inj h).2
      rw [decimal_injective first, ih rest]

theorem toList_intercalate (n : Nat) (rest : List Nat) :
    ',' :: (",".intercalate ((n :: rest).map decimalText)).toList = listed (n :: rest) := by
  induction rest generalizing n with
  | nil => simp [decimalText, listed]
  | cons m rest ih =>
    rw [List.map_cons, List.map_cons, String.intercalate_cons_cons, ← List.map_cons, listed, ← ih m]
    simp [decimalText]

theorem intercalate_decimal_injective {ms ns : List Nat}
    (h : ",".intercalate (ms.map decimalText) = ",".intercalate (ns.map decimalText)) :
    ms = ns := by
  -- No number is written with no digits, so the text of a list without numbers stands alone.
  have filled : ∀ k ks, ",".intercalate ((k :: ks).map decimalText) ≠ "" := by
    intro k ks empty
    have text := toList_intercalate k ks
    rw [empty] at text
    have none : decimal k ++ listed ks = [] := (List.cons.inj text).2.symm
    exact decimal_ne_nil k (List.append_eq_nil_iff.mp none).1
  cases ms with
  | nil =>
    cases ns with
    | nil => rfl
    | cons n ns => exact absurd h.symm (filled n ns)
  | cons m ms =>
    cases ns with
    | nil => exact absurd h (filled m ms)
    | cons n ns =>
      apply listed_injective
      rw [← toList_intercalate, ← toList_intercalate, h]

/-- **The text of some limbs tells the limbs.** -/
theorem limbsText_injective {as bs : List UInt64} (h : limbsText as = limbsText bs) : as = bs := by
  have chars : ∀ limbs : List UInt64, (limbsText limbs).toList =
      '[' :: ((",".intercalate ((limbs.map (·.toNat)).map decimalText)).toList ++ [']']) := by
    intro limbs
    simp [limbsText, Function.comp_def]
  have same := congrArg String.toList h
  rw [chars, chars] at same
  have inner := List.append_cancel_right (List.cons.inj same).2
  have numbers : as.map (·.toNat) = bs.map (·.toNat) :=
    intercalate_decimal_injective (String.toList_inj.mp inner)
  exact List.map_injective_iff.mpr (fun _ _ => UInt64.toNat_inj.mp) numbers

/-! ## Words -/

theorem toInt_exponentColumn (e : UInt32) : (exponentColumn e).toInt = e.toNat :=
  Int64.toInt_ofNat_of_lt (Nat.lt_trans e.toNat_lt (by decide))

theorem exponentColumn_injective {a b : UInt32} (h : exponentColumn a = exponentColumn b) :
    a = b := by
  have numbers : (a.toNat : Int) = b.toNat := by
    rw [← toInt_exponentColumn, h, toInt_exponentColumn]
  exact UInt32.toNat_inj.mp (Int.ofNat.inj numbers)

theorem toInt64_injective {a b : UInt64} (h : a.toInt64 = b.toInt64) : a = b := by
  rw [← a.toUInt64_toInt64, h, b.toUInt64_toInt64]

/-- A word below half the range stays the same number. -/
theorem toInt_toInt64 {a : UInt64} (h : a.toNat < 2 ^ 63) : a.toInt64.toInt = a.toNat := by
  rw [← a.ofNat_toNat, UInt64.toInt64_ofNat', UInt64.ofNat_toNat]
  exact Int64.toInt_ofNat_of_lt h

end TransferLedger
