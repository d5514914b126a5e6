/-
# TransferLedger.Proofs.Number.Canonical -- each word has one encoding

An encoding has a shape that is told without the words: its exponent counts the digits of the number
that it denotes, its first limb is the head that this count leaves, and no zero limb stands at its
end. Every word is encoded in this shape, and whatever has this shape and denotes a word is the
encoding of that word.
-/

import TransferLedger.Proofs.Number.Pieces

namespace TransferLedger.SlotWord

open TransferLedger.Number

/-! ## The shape of encodings -/

/-- **The number that limbs and an exponent denote:** the limbs are digits in base 10^14, and zero
limbs follow them as long as the exponent leaves room. -/
def denoted (a : SlotWord) : Nat :=
  Nat.ofDigits limbBase (a.limbs.map UInt64.toNat).reverse *
    limbBase ^ (a.exponent.toNat / limbWidth + 1 - a.limbs.length)

/-- **The shape of an encoding.** -/
structure Canonical (a : SlotWord) : Prop where
  /-- The exponent is that of the leading digit. -/
  width : decimalWidth a.denoted = a.exponent.toNat + 1
  nonempty : a.limbs ≠ []
  count : a.limbs.length ≤ a.exponent.toNat / limbWidth + 1
  bounded : ∀ limb ∈ a.limbs, limb.toNat < limbBase
  /-- The first limb has the digits that whole limbs leave, and it is zero for zero only. -/
  leading : ∀ first ∈ a.limbs.head?,
    decimalWidth first.toNat = a.exponent.toNat % limbWidth + 1 ∧ (first = 0 → a.denoted = 0)
  /-- Only a single limb may be zero at the end. -/
  trailing : ∀ last ∈ a.limbs.getLast?, last = 0 → a.limbs.length = 1

/-- **The limbs are cut out of the decimal text of a number,** up to zero limbs at the end. -/
def CutFrom (a : SlotWord) (n : Nat) : Prop :=
  ∃ pieces zeros, limbTexts? (decimal n) = some pieces ∧
    pieces.mapM decimalNat? = some (a.limbs.map UInt64.toNat ++ List.replicate zeros 0)

/-! ## Words are encoded in this shape -/

/-- The limbs of a word are those of its number. -/
theorem map_toNat_limbs (w : Word) (slot : UInt64) :
    (ofWord w slot).limbs.map UInt64.toNat = limbsOf w.toNat := by
  show ((limbsOf w.toNat).map UInt64.ofNat).map UInt64.toNat = _
  rw [List.map_map]
  conv_rhs => rw [← List.map_id (limbsOf w.toNat)]
  refine List.map_congr_left fun d hd => ?_
  exact UInt64.toNat_ofNat_of_lt' (Nat.lt_trans (lt_limbBase_of_mem_limbsOf hd) limbBase_lt)

theorem length_limbs (w : Word) (slot : UInt64) :
    (ofWord w slot).limbs.length = (limbsOf w.toNat).length := by
  rw [← map_toNat_limbs w slot, List.length_map]

theorem toNat_exponent (w : Word) (slot : UInt64) :
    (ofWord w slot).exponent.toNat = decimalWidth w.toNat - 1 := by
  have narrow := decimalWidth_toNat_le w
  exact UInt32.toNat_ofNat_of_lt' (by unfold UInt32.size; omega)

theorem cutFrom_ofWord (w : Word) (slot : UInt64) : (ofWord w slot).CutFrom w.toNat := by
  obtain ⟨pieces, cut, read⟩ := limbTexts?_decimal w.toNat
  obtain ⟨zeros, all⟩ := allLimbs_eq w.toNat
  refine ⟨pieces, zeros, cut, ?_⟩
  rw [read, all, map_toNat_limbs]

/-- The digits of a number that is not zero make a limb each, and the last limb may be shorter. -/
theorem length_digits {n : Nat} (hn : n ≠ 0) :
    (Nat.digits limbBase n).length = (decimalWidth n - 1) / limbWidth + 1 := by
  have positive : 0 < (Nat.digits limbBase n).length :=
    List.length_pos_iff.mpr (Nat.digits_ne_nil_iff_ne_zero.mpr hn)
  have wide := decimalWidth_pos n
  have enough := (length_digits_le_iff positive).mp (Nat.le_refl _)
  have upper := (length_digits_le_iff (n := n)
    (Nat.succ_pos ((decimalWidth n - 1) / limbWidth))).mpr (by unfold limbWidth; omega)
  unfold limbWidth at *
  omega

/-- The first digit has the decimal digits that the others leave. -/
theorem decimalWidth_first {back : List Nat} {first : Nat} (hf : first ≠ 0)
    (hb : ∀ d ∈ back, d < limbBase) :
    decimalWidth (Nat.ofDigits limbBase (back ++ [first])) =
      decimalWidth first + limbWidth * back.length := by
  have low : Nat.ofDigits limbBase back < 10 ^ (limbWidth * back.length) := by
    rw [Nat.pow_mul]
    exact Nat.ofDigits_lt_base_pow_length one_lt_limbBase hb
  rw [Nat.ofDigits_append, Nat.ofDigits_singleton, limbBase, ← Nat.pow_mul, Nat.add_comm,
    Nat.mul_comm]
  exact decimalWidth_shift hf low

theorem denoted_ofWord (w : Word) (slot : UInt64) : (ofWord w slot).denoted = w.toNat := by
  rw [denoted, map_toNat_limbs, toNat_exponent, length_limbs]
  by_cases hn : w.toNat = 0
  · rw [hn]
    rfl
  · rw [← length_digits hn, limbsOf_of_ne_zero hn, List.reverse_reverse, List.length_reverse,
      Nat.mul_comm]
    exact (eq_pow_mul_significant w.toNat).symm

theorem length_limbsOf_le (n : Nat) :
    (limbsOf n).length ≤ (decimalWidth n - 1) / limbWidth + 1 := by
  by_cases hn : n = 0
  · subst hn
    decide
  · rw [← length_digits hn, limbsOf_of_ne_zero hn, List.length_reverse]
    exact (List.dropWhile_sublist _).length_le

/-- The first limb of a number is the head of its decimal text. -/
theorem head?_limbsOf {n first : Nat} (h : first ∈ (limbsOf n).head?) :
    decimalWidth first = (decimalWidth n - 1) % limbWidth + 1 ∧ (first = 0 → n = 0) := by
  by_cases hn : n = 0
  · subst hn
    obtain rfl : 0 = first := Option.some.inj h
    exact ⟨rfl, fun _ => rfl⟩
  · rw [limbsOf_of_ne_zero hn, List.head?_reverse, List.getLast?_eq_some_getLast
      (significant_ne_nil hn), Option.mem_some_iff] at h
    have nonzero : first ≠ 0 := h ▸ getLast_significant_ne_zero hn
    refine ⟨?_, fun zero => absurd zero nonzero⟩
    -- In front of the first limb stand the other limbs and the zeros that were dropped.
    set back := List.replicate ((Nat.digits limbBase n).length - (significant n).length) 0 ++
      (significant n).dropLast with hback
    have split : Nat.digits limbBase n = back ++ [first] := by
      rw [hback, List.append_assoc, ← h, List.dropLast_append_getLast, ← digits_eq_zeros_append]
    have small : ∀ d ∈ back ++ [first], d < limbBase := by
      rw [← split]
      exact fun d hd => Nat.digits_lt_base one_lt_limbBase hd
    have width : decimalWidth n = decimalWidth first + limbWidth * back.length := by
      rw [← decimalWidth_first nonzero fun d hd => small d (List.mem_append_left _ hd), ← split,
        Nat.ofDigits_digits]
    have narrow := decimalWidth_le_limbWidth (small first (by simp))
    have wide := decimalWidth_pos first
    unfold limbWidth at *
    omega

/-- The last limb of a number is zero for zero only. -/
theorem getLast?_limbsOf {n last : Nat} (h : last ∈ (limbsOf n).getLast?) (zero : last = 0) :
    n = 0 := by
  by_contra hn
  rw [limbsOf_of_ne_zero hn, List.getLast?_reverse] at h
  obtain ⟨rest, shape⟩ := List.head?_eq_some_iff.mp h
  exact head_significant_ne_zero shape zero

/-- **A word is encoded in the shape of encodings.** -/
theorem canonical_ofWord (w : Word) (slot : UInt64) : (ofWord w slot).Canonical where
  width := by
    have wide := decimalWidth_pos w.toNat
    rw [denoted_ofWord, toNat_exponent]
    omega
  nonempty := by
    intro none
    have empty := map_toNat_limbs w slot
    rw [none, List.map_nil] at empty
    have filled : limbsOf w.toNat ≠ [] := by
      unfold limbsOf
      split
      case h_1 => exact List.cons_ne_nil 0 []
      case h_2 other => exact other
    exact filled empty.symm
  count := by
    rw [length_limbs, toNat_exponent]
    exact length_limbsOf_le w.toNat
  bounded := by
    intro limb hl
    apply lt_limbBase_of_mem_limbsOf (n := w.toNat)
    rw [← map_toNat_limbs w slot]
    exact List.mem_map_of_mem hl
  leading := by
    intro first hf
    have head : first.toNat ∈ (limbsOf w.toNat).head? := by
      rw [← map_toNat_limbs w slot, List.head?_map, hf]
      exact rfl
    obtain ⟨width, zero⟩ := head?_limbsOf head
    rw [toNat_exponent, denoted_ofWord]
    refine ⟨width, fun none => zero ?_⟩
    rw [none]
    rfl
  trailing := by
    intro last hl none
    have tail : last.toNat ∈ (limbsOf w.toNat).getLast? := by
      rw [← map_toNat_limbs w slot, List.getLast?_map, hl]
      exact rfl
    have zero : w.toNat = 0 := getLast?_limbsOf tail (by rw [none]; rfl)
    rw [length_limbs, zero]
    rfl

/-! ## Whatever has this shape is an encoding -/

namespace Canonical

variable {a : SlotWord}

theorem first_ne_zero (h : a.Canonical) (hn : a.denoted ≠ 0) {first : UInt64}
    (hf : first ∈ a.limbs.head?) : first ≠ 0 := fun zero => hn ((h.leading first hf).2 zero)

theorem last_ne_zero (h : a.Canonical) (hn : a.denoted ≠ 0) {last : UInt64}
    (hl : last ∈ a.limbs.getLast?) : last ≠ 0 := by
  intro zero
  obtain ⟨only, single⟩ := List.length_eq_one_iff.mp (h.trailing last hl zero)
  rw [single] at hl
  obtain rfl : only = last := Option.some.inj hl
  exact h.first_ne_zero hn (by rw [single]; rfl) zero

/-- The limbs and the zeros that the exponent asks for are the digits of what is denoted. -/
theorem digits_denoted (h : a.Canonical) (hn : a.denoted ≠ 0) :
    Nat.digits limbBase a.denoted =
      List.replicate (a.exponent.toNat / limbWidth + 1 - a.limbs.length) 0 ++
        (a.limbs.map UInt64.toNat).reverse := by
  set zeros := List.replicate (a.exponent.toNat / limbWidth + 1 - a.limbs.length) 0 with hzeros
  set low := (a.limbs.map UInt64.toNat).reverse with hlow
  have value : Nat.ofDigits limbBase (zeros ++ low) = a.denoted := by
    rw [Nat.ofDigits_append, hzeros, Nat.ofDigits_replicate_zero, List.length_replicate,
      Nat.zero_add, Nat.mul_comm]
    rfl
  have small : ∀ d ∈ zeros ++ low, d < limbBase := by
    intro d hd
    rcases List.mem_append.mp hd with zero | other
    · rw [List.eq_of_mem_replicate zero]
      exact limbBase_pos
    · obtain ⟨limb, hl, rfl⟩ := List.mem_map.mp (List.mem_reverse.mp other)
      exact h.bounded limb hl
  have last : ∀ filled : zeros ++ low ≠ [], (zeros ++ low).getLast filled ≠ 0 := by
    intro filled zero
    obtain ⟨first, rest, shape⟩ := List.exists_cons_of_ne_nil h.nonempty
    have leading : (zeros ++ low).getLast? = some first.toNat := by
      rw [hlow, shape, List.map_cons, List.reverse_cons, ← List.append_assoc, List.getLast?_concat]
    rw [List.getLast?_eq_some_getLast filled, zero, Option.some.injEq] at leading
    exact h.first_ne_zero hn (by rw [shape]; rfl) (UInt64.toNat_inj.mp leading.symm)
  rw [← value]
  exact Nat.digits_ofDigits limbBase one_lt_limbBase _ small last

/-- **The limbs are those of the number that they denote.** -/
theorem limbsOf_denoted (h : a.Canonical) : limbsOf a.denoted = a.limbs.map UInt64.toNat := by
  by_cases hn : a.denoted = 0
  · -- Zero has one digit, so that there is room for one limb only.
    have exponent : a.exponent.toNat = 0 := by
      have one := h.width
      rw [hn] at one
      exact (Nat.succ.inj one).symm
    obtain ⟨only, single⟩ : ∃ only, a.limbs = [only] := by
      have count := h.count
      have positive := List.length_pos_iff.mpr h.nonempty
      rw [exponent] at count
      exact List.length_eq_one_iff.mp (Nat.le_antisymm count positive)
    have zero : only.toNat = 0 := by
      rw [denoted, exponent, single] at hn
      simpa using hn
    rw [hn, single, List.map_singleton, zero]
    rfl
  · set low := (a.limbs.map UInt64.toNat).reverse with hlow
    have trailing : low.dropWhile (· == 0) = low := by
      cases shape : low with
      | nil => rfl
      | cons d rest =>
        have tail : low.head? = some d := by rw [shape]; rfl
        rw [hlow, List.head?_reverse, List.getLast?_map] at tail
        obtain ⟨last, hl, rfl⟩ := Option.map_eq_some_iff.mp tail
        have nonzero : last.toNat ≠ 0 := fun zero =>
          h.last_ne_zero hn hl (UInt64.toNat_inj.mp zero)
        rw [List.dropWhile_cons_of_neg (by simpa using nonzero)]
    have blank : ∀ k : Nat, (List.replicate k 0).dropWhile (· == 0) = [] := fun k =>
      List.dropWhile_replicate.trans (if_pos rfl)
    rw [limbsOf_of_ne_zero hn, significant, h.digits_denoted hn, List.dropWhile_append, blank,
      if_pos List.isEmpty_nil, ← hlow, trailing, hlow, List.reverse_reverse]

theorem eq_ofWord (h : a.Canonical) {w : Word} (hw : w.toNat = a.denoted) :
    ofWord w a.slot = a := by
  have exponent : (ofWord w a.slot).exponent = a.exponent := by
    apply UInt32.toNat_inj.mp
    rw [toNat_exponent, hw, h.width, Nat.add_sub_cancel]
  have limbs : (ofWord w a.slot).limbs = a.limbs := by
    have numbers := map_toNat_limbs w a.slot
    rw [hw, h.limbsOf_denoted] at numbers
    exact List.map_injective_iff.mpr (fun _ _ => UInt64.toNat_inj.mp) numbers
  cases a
  cases exponent
  cases limbs
  rfl

end Canonical

/-- **Encoding is a bijection onto the encodings of this shape.** -/
theorem encoding_bijective :
    (∀ (w : Word) (slot : UInt64), (ofWord w slot).CutFrom w.toNat ∧ (ofWord w slot).Canonical ∧
      (ofWord w slot).denoted = w.toNat ∧ (ofWord w slot).slot = slot ∧
      (ofWord w slot).toWord? = some w) ∧
    (∀ (v w : Word) (i j : UInt64), ofWord v i = ofWord w j ↔ v = w ∧ i = j) ∧
    ∀ a : SlotWord, a.Canonical → a.denoted < 2 ^ 256 →
      ∃ w, a.toWord? = some w ∧ w.toNat = a.denoted ∧ ofWord w a.slot = a := by
  refine ⟨fun w slot => ⟨cutFrom_ofWord w slot, canonical_ofWord w slot, denoted_ofWord w slot, rfl,
    toWord?_ofWord w slot⟩, fun v w i j => ofWord_inj, ?_⟩
  intro a canonical fits
  have number : (BitVec.ofNatLT a.denoted fits).toNat = a.denoted := BitVec.toNat_ofNatLT _ fits
  have encoded := canonical.eq_ofWord number
  refine ⟨BitVec.ofNatLT a.denoted fits, ?_, number, encoded⟩
  conv_lhs => rw [← encoded]
  exact toWord?_ofWord _ a.slot

/-- An encoding with a zero limb inside and another one left out at its end. -/
def gapped : SlotWord := ⟨42, [5, 0, 7], 3⟩

theorem gapped_is_encoding :
    gapped.Canonical ∧ ∃ w, gapped.toWord? = some w ∧ w.toNat = 5 * 10 ^ 42 + 7 * 10 ^ 14 ∧
      ofWord w 3 = gapped := by
  have number : gapped.denoted = 5 * 10 ^ 42 + 7 * 10 ^ 14 := by decide +kernel
  have canonical : gapped.Canonical := by
    constructor
    case width => decide +kernel
    case nonempty => decide
    case count => decide
    case bounded =>
      have small : gapped.limbs.all (·.toNat < limbBase) = true := by decide
      simpa using List.all_eq_true.mp small
    case leading =>
      rintro _ ⟨⟩
      exact ⟨by decide +kernel, nofun⟩
    case trailing =>
      rintro _ ⟨⟩ zero
      exact absurd zero (by decide)
  obtain ⟨w, read, value, encoded⟩ :=
    encoding_bijective.2.2 gapped canonical (by rw [number]; decide)
  exact ⟨canonical, w, read, value.trans number, encoded⟩

end TransferLedger.SlotWord
