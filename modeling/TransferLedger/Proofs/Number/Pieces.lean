/-
# TransferLedger.Proofs.Number.Pieces -- limbs are pieces of the decimal text

The limbs of a number stand in its decimal text: a head of one to fourteen digits and then pieces of
exactly fourteen, zeros in front included. The length of the head is told by the length of the text,
so that the text can be cut from the left and no piece runs past its end.
-/

import TransferLedger.Proofs.Number.Joined

namespace TransferLedger.Number

/-! ## Numbers filled up with zeros -/

/-- A number in decimal with zeros in front, up to so many digits. -/
def padded (k n : Nat) : List Char := List.replicate (k - decimalWidth n) '0' ++ decimal n

theorem length_padded {k n : Nat} (h : decimalWidth n ≤ k) : (padded k n).length = k := by
  rw [padded, List.length_append, List.length_replicate]
  exact Nat.sub_add_cancel h

/-- Zeros in front do not change what is read. -/
theorem decimalNat?_padded (k n : Nat) : decimalNat? (padded k n) = some n := by
  have digits : ∀ c ∈ padded k n, c.isDigit = true := by
    intro c hc
    rcases List.mem_append.mp hc with zero | digit
    · rw [List.eq_of_mem_replicate zero]
      decide
    · exact isDigit_of_mem_decimal digit
  rw [decimalNat?_eq_ofDigitChars digits, padded, Nat.ofDigitChars_append,
    Nat.ofDigitChars_replicate_zero, Nat.mul_zero]
  exact congrArg some Nat.ofDigitChars_ten_toDigits

theorem mapM_padded (k : Nat) (ns : List Nat) :
    (ns.map (padded k)).mapM decimalNat? = some ns := by
  induction ns with
  | nil => rfl
  | cons n rest ih =>
    rw [List.map_cons, List.mapM_cons, decimalNat?_padded, ih]
    rfl

/-- The last digit of a number in at least two digits. -/
theorem padded_succ (k n : Nat) :
    padded (k + 2) n = padded (k + 1) (n / 10) ++ [Nat.digitChar (n % 10)] := by
  unfold padded
  by_cases small : n < 10
  · have front : n / 10 = 0 := Nat.div_eq_of_lt small
    have one : ∀ {m : Nat}, m < 10 → decimalWidth m = 1 := fun hm => by
      rw [decimalWidth, decimal_of_lt hm, List.length_singleton]
    rw [front, one small, one (by decide), decimal_of_lt small, decimal_of_lt (by decide),
      Nat.mod_eq_of_lt small]
    show List.replicate (k + 1) '0' ++ _ = List.replicate k '0' ++ ['0'] ++ _
    rw [List.replicate_succ']
  · have large : 10 ≤ n := Nat.le_of_not_lt small
    have width : decimalWidth n = decimalWidth (n / 10) + 1 := by
      rw [decimalWidth, decimal_of_le large, List.length_append, List.length_singleton]
      rfl
    have zeros : k + 2 - (decimalWidth (n / 10) + 1) = k + 1 - decimalWidth (n / 10) := by omega
    rw [width, zeros, decimal_of_le large, List.append_assoc]

/-- A digit behind a number that is not zero is written behind it. -/
theorem decimal_concat {m d : Nat} (hm : m ≠ 0) (hd : d < 10) :
    decimal (m * 10 + d) = decimal m ++ [Nat.digitChar d] := by
  have front : (m * 10 + d) / 10 = m := by omega
  have back : (m * 10 + d) % 10 = d := by omega
  rw [decimal_of_le (by omega), front, back]

/-- Digits behind a number that is not zero are written behind it, zeros in front included. -/
theorem decimal_shift {a b k : Nat} (ha : a ≠ 0) (hb : b < 10 ^ (k + 1)) :
    decimal (a * 10 ^ (k + 1) + b) = decimal a ++ padded (k + 1) b := by
  -- The last of the digits comes off in every step, so the number in front keeps its place.
  induction k generalizing b with
  | zero =>
    have single : padded 1 b = [Nat.digitChar b] := by
      rw [padded, decimalWidth, decimal_of_lt hb]
      rfl
    rw [single]
    exact decimal_concat ha hb
  | succ k ih =>
    have front : b / 10 < 10 ^ (k + 1) := by
      rw [Nat.pow_succ] at hb
      omega
    have parts : a * 10 ^ (k + 2) + b = (a * 10 ^ (k + 1) + b / 10) * 10 + b % 10 := by
      rw [Nat.pow_succ 10 (k + 1), ← Nat.mul_assoc]
      omega
    have positive : a * 10 ^ (k + 1) + b / 10 ≠ 0 := by
      have shifted : 0 < a * 10 ^ (k + 1) :=
        Nat.mul_pos (Nat.pos_of_ne_zero ha) (Nat.pow_pos (by decide))
      omega
    rw [parts, decimal_concat positive (Nat.mod_lt b (by decide)), ih front, padded_succ,
      List.append_assoc]

end TransferLedger.Number

namespace TransferLedger.SlotWord

open TransferLedger.Number

/-! ## Cutting -/

/-- A text in pieces as long as a limb. There is no result if the last one would be shorter. -/
def wholePieces? (cs : List Char) : Option (List (List Char)) :=
  if cs.isEmpty then some []
  else if cs.length < limbWidth then none
  else (wholePieces? (cs.drop limbWidth)).map (cs.take limbWidth :: ·)
termination_by cs.length
decreasing_by
  simp only [limbWidth, List.length_drop] at *
  omega

/-- **A decimal text cut into limbs from the left.** The head is as short as the rest allows, and
there is no result if a piece would run past the end. -/
def limbTexts? (cs : List Char) : Option (List (List Char)) :=
  let head := (cs.length - 1) % limbWidth + 1
  if cs.length < head then none
  else (wholePieces? (cs.drop head)).map (cs.take head :: ·)

theorem wholePieces?_flatten {pieces : List (List Char)}
    (h : ∀ p ∈ pieces, p.length = limbWidth) : wholePieces? pieces.flatten = some pieces := by
  induction pieces with
  | nil =>
    rw [List.flatten_nil, wholePieces?]
    rfl
  | cons p rest ih =>
    have size : p.length = limbWidth := h p List.mem_cons_self
    have filled : (p ++ rest.flatten).isEmpty = false := by
      cases p with
      | nil => cases size
      | cons => rfl
    have long : ¬(p ++ rest.flatten).length < limbWidth := by
      rw [List.length_append, size]
      omega
    rw [List.flatten_cons, wholePieces?, filled, if_neg Bool.false_ne_true, if_neg long,
      List.drop_left' size, List.take_left' size, ih fun q hq => h q (List.mem_cons_of_mem p hq)]
    rfl

/-- A head of at most fourteen characters and whole pieces behind it are found again. -/
theorem limbTexts?_append {head : List Char} {pieces : List (List Char)} (filled : head ≠ [])
    (short : head.length ≤ limbWidth) (h : ∀ p ∈ pieces, p.length = limbWidth) :
    limbTexts? (head ++ pieces.flatten) = some (head :: pieces) := by
  have total : (head ++ pieces.flatten).length = head.length + limbWidth * pieces.length := by
    rw [List.length_append, List.length_flatten, List.map_congr_left h, List.map_const',
      List.sum_replicate_nat, Nat.mul_comm]
  have size : ((head ++ pieces.flatten).length - 1) % limbWidth + 1 = head.length := by
    have positive : 0 < head.length := List.length_pos_iff.mpr filled
    rw [total, Nat.sub_add_comm positive, Nat.add_mul_mod_self_left, Nat.mod_eq_of_lt (by omega)]
    omega
  have inside : ¬(head ++ pieces.flatten).length < head.length := by
    rw [List.length_append]
    omega
  simp only [limbTexts?, size, if_neg inside, List.drop_left, List.take_left,
    wholePieces?_flatten h, Option.map_some]

/-! ## The pieces of a number -/

/-- All limbs of a number, most significant first; zero has one. -/
def allLimbs (n : Nat) : List Nat := if n = 0 then [0] else (Nat.digits limbBase n).reverse

/-- **A number in decimal is its first limb and then the others** with zeros in front. -/
theorem decimal_ofDigits {first : Nat} (hf : first ≠ 0) {rest : List Nat}
    (hr : ∀ d ∈ rest, d < limbBase) :
    decimal (Nat.ofDigits limbBase (rest.reverse ++ [first])) =
      decimal first ++ (rest.map (padded limbWidth)).flatten := by
  induction rest generalizing first with
  | nil => simp
  | cons d rest ih =>
    have small : d < limbBase := hr d List.mem_cons_self
    have positive : first * limbBase + d ≠ 0 := by
      have shifted : 0 < first * limbBase := Nat.mul_pos (Nat.pos_of_ne_zero hf) limbBase_pos
      omega
    rw [List.reverse_cons, List.append_assoc, List.singleton_append, ← ofDigits_carry,
      ih positive fun e he => hr e (List.mem_cons_of_mem d he), List.map_cons, List.flatten_cons,
      ← List.append_assoc]
    exact congrArg (· ++ _) (decimal_shift hf small)

/-- The zero limbs at the end are all that a number's limbs leave out. -/
theorem allLimbs_eq (n : Nat) : ∃ zeros, allLimbs n = limbsOf n ++ List.replicate zeros 0 := by
  by_cases hn : n = 0
  · subst hn
    exact ⟨0, rfl⟩
  · refine ⟨(Nat.digits limbBase n).length - (significant n).length, ?_⟩
    rw [allLimbs, if_neg hn, limbsOf_of_ne_zero hn]
    nth_rewrite 1 [digits_eq_zeros_append]
    rw [List.reverse_append, List.reverse_replicate]

/-- **Cutting the decimal text of a number gives its limbs.** -/
theorem limbTexts?_decimal (n : Nat) :
    ∃ pieces, limbTexts? (decimal n) = some pieces ∧
      pieces.mapM decimalNat? = some (allLimbs n) := by
  by_cases hn : n = 0
  · subst hn
    exact ⟨[['0']], by decide +kernel, by decide +kernel⟩
  · obtain ⟨back, first, split⟩ : ∃ back first, Nat.digits limbBase n = back ++ [first] :=
      ⟨_, _, (List.dropLast_append_getLast (Nat.digits_ne_nil_iff_ne_zero.mpr hn)).symm⟩
    have small : ∀ d ∈ back ++ [first], d < limbBase := by
      rw [← split]
      exact fun d hd => Nat.digits_lt_base one_lt_limbBase hd
    have nonzero : first ≠ 0 := by
      have last := Nat.getLast_digit_ne_zero limbBase hn
      simpa only [split, List.getLast_append_singleton] using last
    have rest : ∀ d ∈ back.reverse, d < limbBase := fun d hd =>
      small d (List.mem_append_left _ (List.mem_reverse.mp hd))
    -- Only the first limb is written without zeros in front, so only it may be a shorter piece.
    have text : decimal n = decimal first ++ (back.reverse.map (padded limbWidth)).flatten := by
      rw [← decimal_ofDigits nonzero rest, List.reverse_reverse, ← split, Nat.ofDigits_digits]
    refine ⟨decimal first :: back.reverse.map (padded limbWidth), ?_, ?_⟩
    · rw [text]
      refine limbTexts?_append (decimal_ne_nil first) ?_ ?_
      · exact decimalWidth_le_limbWidth (small first (by simp))
      · intro p hp
        obtain ⟨d, hd, rfl⟩ := List.mem_map.mp hp
        exact length_padded (decimalWidth_le_limbWidth (rest d hd))
    · rw [List.mapM_cons, decimalNat?_decimal, mapM_padded, allLimbs, if_neg hn, split,
        List.reverse_append]
      rfl

end TransferLedger.SlotWord
