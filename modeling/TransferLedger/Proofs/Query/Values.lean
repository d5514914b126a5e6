/-
# TransferLedger.Proofs.Query.Values -- values are compared as numbers

The values of a filter and the words of a log are hex scalars. What is compared in their place is the
encoding of the number, so two spellings of one number are one value, at one slot, and spellings of
two numbers never are.
-/

import TransferLedger.Proofs.Number.Scalar
import TransferLedger.Proofs.Query.Agreement

namespace TransferLedger.FilterCompiler

open TransferLedger.Text

/-- **Hex scalars are read exactly and compared by value.** A text is read as a word exactly if it is
a hex scalar and its number that of the word, and as none if it writes no number below 2^256. Where
two values are encoded, for slots of their own, their encodings are one exactly if the values write
one number and the slots are the same. -/
theorem scalars_compared_by_value :
    (∀ (s : String) (w : Word), Word.ofScalar? s = some w ↔ IsScalar s w.toNat) ∧
      (∀ s : String, Word.ofScalar? s = none ↔ ∀ n < 2 ^ 256, ¬IsScalar s n) ∧
      ∀ (name name' s t : String) (i j : UInt64), (encode name i.toNat s).isOk = true →
        (encode name' j.toNat t).isOk = true →
          (encode name i.toNat s = encode name' j.toNat t ↔
            (∃ n, IsScalar s n ∧ IsScalar t n) ∧ i = j) := by
  refine ⟨fun _ _ => Word.ofScalar?_eq_some_iff, fun _ => Word.ofScalar?_eq_none_iff, ?_⟩
  intro name name' s t i j hs ht
  obtain ⟨a, encodedS⟩ := Fallible.exists_of_isOk hs
  obtain ⟨b, encodedT⟩ := Fallible.exists_of_isOk ht
  obtain ⟨v, readS, rfl⟩ := encode_eq_ok encodedS
  obtain ⟨w, readT, rfl⟩ := encode_eq_ok encodedT
  have writtenS : IsScalar s v.toNat := Word.ofScalar?_eq_some_iff.mp readS
  have writtenT : IsScalar t w.toNat := Word.ofScalar?_eq_some_iff.mp readT
  rw [encodedS, encodedT, Except.ok.injEq, SlotWord.ofWord_inj, UInt64.ofNat_toNat,
    UInt64.ofNat_toNat]
  refine and_congr_left fun _ => ?_
  constructor
  · rintro rfl
    exact ⟨v.toNat, writtenS, writtenT⟩
  · rintro ⟨n, first, second⟩
    refine BitVec.eq_of_toNat_eq ?_
    rw [writtenS.unique first, writtenT.unique second]

/-- Padding, blanks, the mark and the letter case are of no account, the slot is. -/
theorem padded_value_is_bare_value :
    encode "to" (1 : UInt64).toNat "\u2003 0X00aB\n" = encode "from" (1 : UInt64).toNat "ab" ∧
      encode "to" (1 : UInt64).toNat "\u2003 0X00aB\n" ≠ encode "to" (2 : UInt64).toNat "ab" := by
  have padded : (encode "to" (1 : UInt64).toNat "\u2003 0X00aB\n").isOk = true := by decide +kernel
  have bare : (encode "from" (1 : UInt64).toNat "ab").isOk = true := by decide +kernel
  have other : (encode "to" (2 : UInt64).toNat "ab").isOk = true := by decide +kernel
  obtain ⟨read, -, compared⟩ := scalars_compared_by_value
  have writesPadded : IsScalar "\u2003 0X00aB\n" (0xab : Word).toNat :=
    (read _ _).mp (by decide +kernel)
  have writesBare : IsScalar "ab" (0xab : Word).toNat := (read _ _).mp (by decide +kernel)
  refine ⟨(compared _ _ _ _ _ _ padded bare).mpr ⟨⟨_, writesPadded, writesBare⟩, rfl⟩, ?_⟩
  intro same
  exact absurd ((compared _ _ _ _ _ _ padded other).mp same).2 (by decide)

end TransferLedger.FilterCompiler
