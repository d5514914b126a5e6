/-
# TransferLedger.Proofs.Number.Joined -- an encoded word is read back

Reading writes the limbs in decimal one after the other and puts zeros behind them up to the digits
that the exponent asks for. The digits written so far are always as many as the number so far has,
so the zeros that are missing are those of the limbs that were dropped.
-/

import TransferLedger.Proofs.Number.Limbs

namespace TransferLedger.Number

/-- Digits behind a number that is not zero add to its width. -/
theorem decimalWidth_shift {a b k : Nat} (ha : a ≠ 0) (hb : b < 10 ^ k) :
    decimalWidth (a * 10 ^ k + b) = decimalWidth a + k := by
  have wide := decimalWidth_pos a
  have bound : a < 10 ^ decimalWidth a := (decimalWidth_le_iff wide).mp (Nat.le_refl _)
  apply Nat.le_antisymm
  · rw [decimalWidth_le_iff (by omega), Nat.pow_add]
    calc a * 10 ^ k + b < a * 10 ^ k + 10 ^ k := Nat.add_lt_add_left hb _
      _ = (a + 1) * 10 ^ k := (Nat.succ_mul a _).symm
      _ ≤ 10 ^ decimalWidth a * 10 ^ k := Nat.mul_le_mul_right _ bound
  · by_contra narrow
    -- A narrower number would leave no room for `a` in front of its last digits.
    have small : a * 10 ^ k + b < 10 ^ (decimalWidth a - 1 + k) := by
      rw [← decimalWidth_le_iff (by have := decimalWidth_pos (a * 10 ^ k + b); omega)]
      omega
    have less : a < 10 ^ (decimalWidth a - 1) := by
      rw [Nat.pow_add] at small
      exact Nat.lt_of_mul_lt_mul_right (Nat.lt_of_le_of_lt (Nat.le_add_right _ b) small)
    rcases Nat.eq_zero_or_pos (decimalWidth a - 1) with one | more
    · rw [one] at less
      omega
    · have narrower := (decimalWidth_le_iff more).mpr less
      omega

end TransferLedger.Number

namespace TransferLedger.SlotWord

open TransferLedger.Number

/-- Two digits at the end make one in the place of the lower one. -/
theorem ofDigits_carry (b m d : Nat) (ds : List Nat) :
    Nat.ofDigits b (ds ++ [m * b + d]) = Nat.ofDigits b (ds ++ [d, m]) := by
  rw [Nat.ofDigits_append, Nat.ofDigits_append, Nat.ofDigits_singleton, Nat.ofDigits_cons,
    Nat.ofDigits_singleton, Nat.mul_comm m b, Nat.add_comm (b * m) d]

/-- One limb behind the number so far, with the digits so far. -/
def joinLimb (soFar : Nat × Nat) (limb : UInt64) : Nat × Nat :=
  let w := max limbWidth (decimalWidth limb.toNat)
  (soFar.1 * 10 ^ w + limb.toNat, soFar.2 + w)

theorem joined_cons (first : UInt64) (rest : List UInt64) :
    joined (first :: rest) =
      rest.foldl joinLimb (first.toNat, decimalWidth first.toNat) := rfl

theorem decimalWidth_le_limbWidth {d : Nat} (h : d < limbBase) : decimalWidth d ≤ limbWidth :=
  (decimalWidth_le_iff (by decide)).mpr h

theorem limbBase_pos : 0 < limbBase := by decide

theorem limbBase_lt : limbBase < 2 ^ 64 := by decide

/-- **The digits so far are as many as the number so far has.** -/
theorem foldl_joinLimb {m : Nat} (hm : m ≠ 0) {rest : List Nat} (hr : ∀ d ∈ rest, d < limbBase) :
    (rest.map UInt64.ofNat).foldl joinLimb (m, decimalWidth m) =
      (Nat.ofDigits limbBase (rest.reverse ++ [m]),
        decimalWidth (Nat.ofDigits limbBase (rest.reverse ++ [m]))) := by
  induction rest generalizing m with
  | nil => simp
  | cons d rest ih =>
    have small : d < limbBase := hr d List.mem_cons_self
    have number : (UInt64.ofNat d).toNat = d :=
      UInt64.toNat_ofNat_of_lt' (Nat.lt_trans small limbBase_lt)
    have width : max limbWidth (decimalWidth d) = limbWidth :=
      Nat.max_eq_left (decimalWidth_le_limbWidth small)
    have step : joinLimb (m, decimalWidth m) (UInt64.ofNat d) =
        (m * limbBase + d, decimalWidth (m * limbBase + d)) := by
      simp only [joinLimb, number, width, limbBase, decimalWidth_shift hm small]
    have positive : m * limbBase + d ≠ 0 := by
      have base := limbBase_pos
      have shifted : 0 < m * limbBase := Nat.mul_pos (Nat.pos_of_ne_zero hm) base
      omega
    rw [List.map_cons, List.foldl_cons, step,
      ih positive fun e he => hr e (List.mem_cons_of_mem d he)]
    rw [ofDigits_carry, List.reverse_cons, List.append_assoc, List.singleton_append]

theorem getLast_significant_ne_zero {n : Nat} (hn : n ≠ 0) :
    (significant n).getLast (significant_ne_nil hn) ≠ 0 := by
  have suffix : significant n <:+ Nat.digits limbBase n := List.dropWhile_suffix _
  rw [suffix.getLast (significant_ne_nil hn)]
  exact Nat.getLast_digit_ne_zero limbBase hn

/-- **What the limbs of an encoding are joined to:** the number in front of the zeros that were dropped,
with as many digits as it has. -/
theorem joined_ofWord {w : Word} (hn : w.toNat ≠ 0) (slot : UInt64) :
    joined (ofWord w slot).limbs =
      (Nat.ofDigits limbBase (significant w.toNat),
        decimalWidth (Nat.ofDigits limbBase (significant w.toNat))) := by
  -- The limbs are the digits from the last one that is not zero, with the first one in front.
  obtain ⟨front, first, split⟩ : ∃ front first, significant w.toNat = front ++ [first] :=
    ⟨_, _, (List.dropLast_append_getLast (significant_ne_nil hn)).symm⟩
  have digits : limbsOf w.toNat = first :: front.reverse := by
    rw [limbsOf_of_ne_zero hn, split, List.reverse_append]
    rfl
  have small : ∀ d ∈ first :: front.reverse, d < limbBase := by
    rw [← digits]
    exact fun _ => lt_limbBase_of_mem_limbsOf
  have nonzero : first ≠ 0 := by
    have last := getLast_significant_ne_zero hn
    simp only [split, List.getLast_append_singleton] at last
    exact last
  have number : (UInt64.ofNat first).toNat = first :=
    UInt64.toNat_ofNat_of_lt' (Nat.lt_trans (small first List.mem_cons_self) limbBase_lt)
  have limbs : (ofWord w slot).limbs = UInt64.ofNat first :: front.reverse.map UInt64.ofNat := by
    show (limbsOf w.toNat).map UInt64.ofNat = _
    rw [digits, List.map_cons]
  rw [limbs, joined_cons, number,
    foldl_joinLimb nonzero fun d hd => small d (List.mem_cons_of_mem first hd),
    List.reverse_reverse, split]

/-- **The word of an encoding** is the word that was encoded. -/
theorem toWord?_ofWord (w : Word) (slot : UInt64) : (ofWord w slot).toWord? = some w := by
  by_cases hn : w.toNat = 0
  · have zero : w = 0 := BitVec.eq_of_toNat_eq hn
    subst zero
    rfl
  · have read := joined_ofWord hn slot
    set value := Nat.ofDigits limbBase (significant w.toNat) with hvalue
    -- The zeros that the exponent asks for are those of the limbs that were dropped.
    set z := limbWidth * ((Nat.digits limbBase w.toNat).length - (significant w.toNat).length) with hz
    have whole : w.toNat = value * 10 ^ z := by
      rw [Nat.mul_comm, hz, Nat.pow_mul]
      exact eq_pow_mul_significant w.toNat
    have positive : value ≠ 0 := by
      intro zero
      rw [zero, Nat.zero_mul] at whole
      exact hn whole
    have width : decimalWidth w.toNat = decimalWidth value + z := by
      have shift := decimalWidth_shift positive (Nat.pow_pos (n := z) (show 0 < 10 by decide))
      rwa [Nat.add_zero, ← whole] at shift
    have narrow := decimalWidth_toNat_le w
    have wide := decimalWidth_pos value
    have exponent : (ofWord w slot).exponent.toNat = decimalWidth w.toNat - 1 :=
      UInt32.toNat_ofNat_of_lt' (by unfold UInt32.size; omega)
    have zeros : (ofWord w slot).exponent.toNat + 1 - decimalWidth value = z := by omega
    rw [toWord?, read]
    simp only [zeros, if_neg positive, if_neg (show ¬78 ≤ z by omega), ← whole]
    exact Word.ofNat?_toNat w

end TransferLedger.SlotWord
