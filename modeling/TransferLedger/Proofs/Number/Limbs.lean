/-
# TransferLedger.Proofs.Number.Limbs -- an encoded word determines the word

A word is kept as its count of decimal digits and its limbs without the zero limbs at the end. The
count of digits tells how many limbs there were, hence how many zero limbs were dropped, and with
these the number is rebuilt. So two words with one encoding are the same word, and comparing
encodings is comparing numbers.
-/

import Mathlib.Data.List.TakeWhile
import Mathlib.Data.Nat.Digits.Lemmas
import TransferLedger.Number.SlotWord
import TransferLedger.Proofs.Number.Decimal

namespace TransferLedger.Number

/-! ## Digits in any base -/

theorem littleDigitsUpTo_eq_digits {b : Nat} (hb : 1 < b) :
    ∀ {fuel n : Nat}, n < 2 ^ fuel → littleDigitsUpTo b fuel n = Nat.digits b n
  | 0, n, h => by
    have hn : n = 0 := by simpa using h
    simp [littleDigitsUpTo, hn]
  | fuel + 1, n, h => by
    rw [littleDigitsUpTo]
    split
    case isTrue hn => simp [hn]
    case isFalse hn =>
      have less : n / b < 2 ^ fuel := by
        have halved : n / b ≤ n / 2 := Nat.div_le_div_left hb (by decide)
        rw [Nat.pow_succ] at h
        omega
      rw [littleDigitsUpTo_eq_digits hb less, Nat.digits_def' hb (Nat.pos_of_ne_zero hn)]

theorem littleDigits_eq_digits {b : Nat} (hb : 1 < b) (n : Nat) :
    littleDigits b n = Nat.digits b n :=
  littleDigitsUpTo_eq_digits hb Nat.lt_log2_self

end TransferLedger.Number

namespace TransferLedger.SlotWord

open TransferLedger.Number

/-! ## Limbs -/

theorem one_lt_limbBase : 1 < limbBase := by decide

/-- The limbs of a number with the least significant first, without the zero limbs in front. -/
def significant (n : Nat) : List Nat := (Nat.digits limbBase n).dropWhile (· == 0)

theorem limbsOf_zero : limbsOf 0 = [0] := rfl

theorem significant_ne_nil {n : Nat} (hn : n ≠ 0) : significant n ≠ [] := by
  intro h
  have zeros : ∀ d ∈ Nat.digits limbBase n, d = 0 := by
    simpa [significant, List.dropWhile_eq_nil_iff] using h
  have nonempty : Nat.digits limbBase n ≠ [] := Nat.digits_ne_nil_iff_ne_zero.mpr hn
  exact Nat.getLast_digit_ne_zero limbBase hn (zeros _ (List.getLast_mem nonempty))

theorem limbsOf_of_ne_zero {n : Nat} (hn : n ≠ 0) : limbsOf n = (significant n).reverse := by
  unfold limbsOf
  rw [littleDigits_eq_digits one_lt_limbBase]
  split
  case h_1 h => exact absurd (List.reverse_eq_nil_iff.mp h) (significant_ne_nil hn)
  case h_2 => rfl

theorem head_significant_ne_zero {n d : Nat} {rest : List Nat} (h : significant n = d :: rest) :
    d ≠ 0 := by
  have first := List.head?_dropWhile_not (· == 0) (Nat.digits limbBase n)
  unfold significant at h
  rw [h] at first
  simpa using first

/-- The zero limbs that were dropped are those that are missing up to the count of all limbs. -/
theorem digits_eq_zeros_append (n : Nat) :
    Nat.digits limbBase n =
      List.replicate ((Nat.digits limbBase n).length - (significant n).length) 0 ++
        significant n := by
  set digits := Nat.digits limbBase n with hdigits
  set zeros := digits.takeWhile (· == 0) with hzeros
  have parts : zeros ++ significant n = digits := List.takeWhile_append_dropWhile
  have count : digits.length - (significant n).length = zeros.length := by
    rw [← parts, List.length_append, Nat.add_sub_cancel]
  have blank : zeros = List.replicate zeros.length 0 := by
    refine List.eq_replicate_of_mem fun d hd => ?_
    simpa using List.mem_takeWhile_imp hd
  rw [count, ← blank, parts]

theorem eq_pow_mul_significant (n : Nat) :
    n = limbBase ^ ((Nat.digits limbBase n).length - (significant n).length) *
      Nat.ofDigits limbBase (significant n) := by
  set k := (Nat.digits limbBase n).length - (significant n).length with hk
  calc n = Nat.ofDigits limbBase (Nat.digits limbBase n) := (Nat.ofDigits_digits limbBase n).symm
    _ = Nat.ofDigits limbBase (List.replicate k 0 ++ significant n) := by
      rw [digits_eq_zeros_append]
    _ = limbBase ^ k * Nat.ofDigits limbBase (significant n) := by
      rw [Nat.ofDigits_append, Nat.ofDigits_replicate_zero, List.length_replicate, Nat.zero_add]

/-- Fourteen decimal digits make a limb. -/
theorem length_digits_le_iff {n k : Nat} (hk : 0 < k) :
    (Nat.digits limbBase n).length ≤ k ↔ decimalWidth n ≤ limbWidth * k := by
  rw [Nat.digits_length_le_iff one_lt_limbBase,
    decimalWidth_le_iff (Nat.mul_pos (by decide) hk), limbBase, ← Nat.pow_mul]

theorem length_digits_eq {m n : Nat} (hm : m ≠ 0) (hn : n ≠ 0)
    (h : decimalWidth m = decimalWidth n) :
    (Nat.digits limbBase m).length = (Nat.digits limbBase n).length := by
  have pos : ∀ {k}, k ≠ 0 → 0 < (Nat.digits limbBase k).length := fun hk =>
    List.length_pos_iff.mpr (Nat.digits_ne_nil_iff_ne_zero.mpr hk)
  apply Nat.le_antisymm
  · rw [length_digits_le_iff (pos hn), h, ← length_digits_le_iff (pos hn)]
  · rw [length_digits_le_iff (pos hm), ← h, ← length_digits_le_iff (pos hm)]

theorem limbsOf_ne_of_ne_zero {n : Nat} (hn : n ≠ 0) : limbsOf n ≠ limbsOf 0 := by
  rw [limbsOf_of_ne_zero hn, limbsOf_zero]
  intro h
  have only : significant n = [0] := by
    rw [← List.reverse_reverse (significant n), h, List.reverse_singleton]
  exact head_significant_ne_zero only rfl

/-- **Digits and limbs determine the number.** -/
theorem eq_of_limbsOf_eq {m n : Nat} (width : decimalWidth m = decimalWidth n)
    (limbs : limbsOf m = limbsOf n) : m = n := by
  by_cases hm : m = 0
  · by_contra hn
    subst hm
    exact limbsOf_ne_of_ne_zero (Ne.symm hn) limbs.symm
  · by_cases hn : n = 0
    · subst hn
      exact absurd limbs (limbsOf_ne_of_ne_zero hm)
    · rw [limbsOf_of_ne_zero hm, limbsOf_of_ne_zero hn, List.reverse_inj] at limbs
      rw [eq_pow_mul_significant m, eq_pow_mul_significant n, limbs,
        length_digits_eq hm hn width]

/-- Zero limbs behind a number are not among its limbs. -/
theorem limbsOf_pow_mul (k n : Nat) : limbsOf (limbBase ^ k * n) = limbsOf n := by
  by_cases hn : n = 0
  · rw [hn, Nat.mul_zero]
  · have positive : limbBase ^ k * n ≠ 0 :=
      Nat.mul_ne_zero (Nat.pow_pos (Nat.lt_of_succ_lt one_lt_limbBase)).ne' hn
    have dropped : significant (limbBase ^ k * n) = significant n := by
      rw [significant, Nat.digits_base_pow_mul one_lt_limbBase (Nat.pos_of_ne_zero hn)]
      exact List.dropWhile_append_of_pos fun d hd => beq_iff_eq.mpr (List.eq_of_mem_replicate hd)
    rw [limbsOf_of_ne_zero positive, dropped, ← limbsOf_of_ne_zero hn]

/-- **Numbers have the same limbs if one is the other with zero limbs behind it,** and only then. -/
theorem limbsOf_inj {m n : Nat} :
    limbsOf m = limbsOf n ↔ ∃ k, m = limbBase ^ k * n ∨ n = limbBase ^ k * m := by
  constructor
  · intro limbs
    by_cases hm : m = 0
    · have hn : n = 0 := by
        by_contra hn
        exact limbsOf_ne_of_ne_zero hn (hm ▸ limbs.symm)
      exact ⟨0, .inl (by rw [hm, hn, Nat.mul_zero])⟩
    by_cases hn : n = 0
    · exact absurd (hn ▸ limbs) (limbsOf_ne_of_ne_zero hm)
    rw [limbsOf_of_ne_zero hm, limbsOf_of_ne_zero hn, List.reverse_inj] at limbs
    -- Both are the number of these limbs with zero limbs behind them, and one of them has more.
    have shape := eq_pow_mul_significant m
    have shape' := eq_pow_mul_significant n
    rw [limbs] at shape
    set core := Nat.ofDigits limbBase (significant n)
    generalize (Nat.digits limbBase m).length - (significant n).length = a at shape
    generalize (Nat.digits limbBase n).length - (significant n).length = b at shape'
    have longer : ∀ {i j : Nat}, i ≤ j →
        limbBase ^ j * core = limbBase ^ (j - i) * (limbBase ^ i * core) := by
      intro i j less
      rw [← Nat.mul_assoc, ← Nat.pow_add, Nat.sub_add_cancel less]
    rcases Nat.le_total a b with less | less
    · exact ⟨b - a, .inr (by rw [shape', shape, longer less])⟩
    · exact ⟨a - b, .inl (by rw [shape', shape, longer less])⟩
  · rintro ⟨k, rfl | rfl⟩
    · exact limbsOf_pow_mul k n
    · exact (limbsOf_pow_mul k m).symm

theorem lt_limbBase_of_mem_limbsOf {n d : Nat} (h : d ∈ limbsOf n) : d < limbBase := by
  by_cases hn : n = 0
  · subst hn
    rw [limbsOf_zero, List.mem_singleton] at h
    subst h
    decide
  · rw [limbsOf_of_ne_zero hn, List.mem_reverse] at h
    exact Nat.digits_lt_base one_lt_limbBase ((List.dropWhile_sublist _).mem h)

/-! ## Encoded words -/

theorem decimalWidth_toNat_le (w : Word) : decimalWidth w.toNat ≤ 78 :=
  (decimalWidth_le_iff (by decide)).mpr (Nat.lt_of_lt_of_le w.isLt (by decide))

theorem map_uint64_inj {xs ys : List Nat} (hx : ∀ x ∈ xs, x < 2 ^ 64) (hy : ∀ y ∈ ys, y < 2 ^ 64)
    (h : xs.map UInt64.ofNat = ys.map UInt64.ofNat) : xs = ys := by
  have back : ∀ zs : List Nat, (∀ z ∈ zs, z < 2 ^ 64) →
      (zs.map UInt64.ofNat).map UInt64.toNat = zs := by
    intro zs hz
    rw [List.map_map]
    conv_rhs => rw [← List.map_id zs]
    refine List.map_congr_left fun z hm => ?_
    rw [Function.comp_apply, UInt64.toNat_ofNat_of_lt' (hz z hm), id]
  rw [← back xs hx, ← back ys hy, h]

/-- Two words have one exponent if they have as many digits. -/
theorem exponent_ofWord_inj {v w : Word} {i j : UInt64} :
    (ofWord v i).exponent = (ofWord w j).exponent ↔
      decimalWidth v.toNat = decimalWidth w.toNat := by
  constructor
  · intro exponent
    have hv := decimalWidth_toNat_le v
    have hw := decimalWidth_toNat_le w
    have hv' := decimalWidth_pos v.toNat
    have hw' := decimalWidth_pos w.toNat
    have values := congrArg UInt32.toNat exponent
    unfold ofWord at values
    rw [UInt32.toNat_ofNat_of_lt' (by unfold UInt32.size; omega),
      UInt32.toNat_ofNat_of_lt' (by unfold UInt32.size; omega)] at values
    omega
  · intro width
    exact congrArg (fun k => UInt32.ofNat (k - 1)) width

theorem limbs_ofWord_inj {v w : Word} {i j : UInt64} :
    (ofWord v i).limbs = (ofWord w j).limbs ↔ limbsOf v.toNat = limbsOf w.toNat := by
  have small : ∀ x : Word, ∀ d ∈ limbsOf x.toNat, d < 2 ^ 64 := fun x d hd =>
    Nat.lt_trans (lt_limbBase_of_mem_limbsOf hd) (by decide)
  exact ⟨map_uint64_inj (small v) (small w), congrArg (List.map UInt64.ofNat)⟩

/-- **The encoding of a word is injective.** -/
theorem ofWord_inj {v w : Word} {i j : UInt64} : ofWord v i = ofWord w j ↔ v = w ∧ i = j := by
  constructor
  · intro h
    have width := exponent_ofWord_inj.mp (congrArg SlotWord.exponent h)
    have limbs := limbs_ofWord_inj.mp (congrArg SlotWord.limbs h)
    exact ⟨BitVec.eq_of_toNat_eq (eq_of_limbsOf_eq width limbs), congrArg SlotWord.slot h⟩
  · rintro ⟨rfl, rfl⟩
    rfl

end TransferLedger.SlotWord
