/-
# TransferLedger.Proofs.Chain.Quantity -- which texts are quantities, and of which number

A node writes a number as a mark and at most 64 hex digits. `IsQuantity` says so by the parts of the
text. The reader takes all such texts and answers their number, and it also takes texts whose digits
carry a second mark, in lower case, which no quantity has and which the reader of scalars refuses.
-/

import TransferLedger.Chain.JsonRpc
import TransferLedger.Proofs.Number.Scalar

namespace TransferLedger

open TransferLedger.Text

/-! ## Runs of digits -/

theorem Word.ofHexRun?_eq_some_iff {digits : List Char} {w : Word} :
    ofHexRun? digits = some w ↔ digits.length ≤ 64 ∧ DigitsDenote digits w.toNat := by
  unfold ofHexRun?
  split
  case isTrue short =>
    rw [Option.bind_eq_some_iff, ← hexNat?_eq_some_iff]
    constructor
    · rintro ⟨n, read, fits⟩
      obtain rfl := toNat_of_ofNat? fits
      exact ⟨short, read⟩
    · rintro ⟨-, read⟩
      exact ⟨w.toNat, read, ofNat?_toNat w⟩
  case isFalse long => simp [long]

/-- As many digits as a run may have denote a word. -/
theorem exists_word_of_digits {digits : List Char} {n : Nat} (short : digits.length ≤ 64)
    (denote : DigitsDenote digits n) : ∃ w : Word, w.toNat = n := by
  obtain ⟨m, small, read⟩ := hexNat?_of_digits denote.hex
  obtain rfl : m = n := Option.some.inj (read.symm.trans (hexNat?_eq_some_iff.mpr denote))
  have fits : m < 2 ^ 256 :=
    calc m < 16 ^ digits.length := small
      _ ≤ 16 ^ 64 := Nat.pow_le_pow_right (by decide) short
      _ = 2 ^ 256 := by decide
  exact ⟨BitVec.ofNatLT m fits, rfl⟩

/-! ## Marks -/

/-- What a quantity starts with. -/
def quantityMarks : List (List Char) := [['0', 'x'], ['0', 'X']]

/-- The mark that the digits may carry besides. -/
def innerMark : List Char := ['0', 'x']

theorem length_of_mem_quantityMarks : ∀ mark ∈ quantityMarks, mark.length = 2 := by decide

theorem afterHexMark?_eq_some_iff {cs rest : List Char} :
    afterHexMark? cs = some rest ↔ ∃ mark ∈ quantityMarks, cs = mark ++ rest := by
  constructor
  · intro h
    unfold afterHexMark? at h
    split at h
    case h_1 digits =>
      cases h
      exact ⟨['0', 'x'], by decide, rfl⟩
    case h_2 digits =>
      cases h
      exact ⟨['0', 'X'], by decide, rfl⟩
    case h_3 => cases h
  · rintro ⟨mark, marked, rfl⟩
    simp only [quantityMarks, List.mem_cons, List.not_mem_nil, or_false] at marked
    rcases marked with rfl | rfl <;> rfl

/-- No digits start with a mark, as its second character is none. -/
theorem ne_innerMark_append {digits rest : List Char} (hex : IsHex digits) :
    digits ≠ innerMark ++ rest := by
  rintro rfl
  exact absurd (hex 'x' (by simp [innerMark])) (by decide)

/-- Either the digits carry no mark and stay as they are, or they lose the mark. -/
theorem dropInnerMark_cases (digits : List Char) :
    dropInnerMark digits = digits ∨ digits = innerMark ++ dropInnerMark digits := by
  unfold dropInnerMark
  split
  case h_1 rest => exact .inr rfl
  case h_2 => exact .inl rfl

theorem dropInnerMark_of_hex {digits : List Char} (hex : IsHex digits) :
    dropInnerMark digits = digits :=
  (dropInnerMark_cases digits).resolve_right (ne_innerMark_append hex)

/-! ## Quantities -/

/-- **A text that writes a number as a quantity:** a mark and at most 64 hex digits. -/
def IsQuantity (s : String) (n : Nat) : Prop :=
  ∃ mark ∈ quantityMarks, ∃ digits : List Char,
    s.toList = mark ++ digits ∧ digits.length ≤ 64 ∧ DigitsDenote digits n

/-- **A text that writes a number with two marks.** -/
def IsTwiceMarked (s : String) (n : Nat) : Prop :=
  ∃ mark ∈ quantityMarks, ∃ digits : List Char,
    s.toList = mark ++ (innerMark ++ digits) ∧ digits.length ≤ 64 ∧ DigitsDenote digits n

variable {text : String} {w : Word}

/-- The number of a text is the number of the digits behind its mark. -/
theorem quantity_eq_ok_iff_digits :
    quantity text = .ok w ↔ ∃ mark ∈ quantityMarks, ∃ rest, text.toList = mark ++ rest ∧
      (dropInnerMark rest).length ≤ 64 ∧ DigitsDenote (dropInnerMark rest) w.toNat := by
  have behind : quantity text = .ok w ↔ ∃ rest, afterHexMark? text.toList = some rest ∧
      Word.ofHexRun? (dropInnerMark rest) = some w := by
    unfold quantity
    split
    case h_1 none => simp [none]
    case h_2 rest marked =>
      simp only [marked, Option.some.injEq, exists_eq_left']
      split
      case h_1 v read => simp [read]
      case h_2 none => simp [none]
  simp only [behind, afterHexMark?_eq_some_iff, Word.ofHexRun?_eq_some_iff]
  constructor
  · rintro ⟨rest, ⟨mark, marked, shape⟩, read⟩
    exact ⟨mark, marked, rest, shape, read⟩
  · rintro ⟨mark, marked, rest, shape, read⟩
    exact ⟨rest, ⟨mark, marked, shape⟩, read⟩

/-- **The reader takes a text with one mark or with two.** -/
theorem quantity_eq_ok_iff :
    quantity text = .ok w ↔ IsQuantity text w.toNat ∨ IsTwiceMarked text w.toNat := by
  rw [quantity_eq_ok_iff_digits]
  constructor
  · rintro ⟨mark, marked, rest, shape, short, denote⟩
    rcases dropInnerMark_cases rest with same | inner
    · rw [same] at short denote
      exact .inl ⟨mark, marked, rest, shape, short, denote⟩
    · exact .inr ⟨mark, marked, dropInnerMark rest, by rw [← inner, shape], short, denote⟩
  · rintro (⟨mark, marked, digits, shape, short, denote⟩ |
      ⟨mark, marked, digits, shape, short, denote⟩)
    · have same := dropInnerMark_of_hex denote.hex
      exact ⟨mark, marked, digits, shape, by rwa [same], by rwa [same]⟩
    · exact ⟨mark, marked, innerMark ++ digits, shape, short, denote⟩

/-- A reading that fails is reported as a wrong answer of the node. -/
theorem exists_invalidResponse {e : RpcFailure} (h : quantity text = .error e) :
    ∃ message, e = .invalidResponse message := by
  unfold quantity at h
  split at h
  case h_1 =>
    cases h
    exact ⟨_, rfl⟩
  case h_2 =>
    split at h
    case h_1 => cases h
    case h_2 =>
      cases h
      exact ⟨_, rfl⟩

theorem quantity_eq_error_iff :
    (∃ message, quantity text = .error (.invalidResponse message)) ↔
      ∀ n, ¬IsQuantity text n ∧ ¬IsTwiceMarked text n := by
  constructor
  · rintro ⟨message, refused⟩ n
    have unread : ∀ w : Word, ¬(IsQuantity text w.toNat ∨ IsTwiceMarked text w.toNat) := by
      intro w written
      rw [← quantity_eq_ok_iff, refused] at written
      cases written
    constructor
    · rintro ⟨mark, marked, digits, shape, short, denote⟩
      obtain ⟨w, rfl⟩ := exists_word_of_digits short denote
      exact unread w (.inl ⟨mark, marked, digits, shape, short, denote⟩)
    · rintro ⟨mark, marked, digits, shape, short, denote⟩
      obtain ⟨w, rfl⟩ := exists_word_of_digits short denote
      exact unread w (.inr ⟨mark, marked, digits, shape, short, denote⟩)
  · intro unwritten
    cases read : quantity text with
    | ok w =>
      rcases quantity_eq_ok_iff.mp read with one | two
      · exact absurd one (unwritten w.toNat).1
      · exact absurd two (unwritten w.toNat).2
    | error e =>
      obtain ⟨message, rfl⟩ := exists_invalidResponse read
      exact ⟨message, rfl⟩

/-- No text with two marks is a quantity. -/
theorem IsTwiceMarked.not_isQuantity {m n : Nat} (h : IsTwiceMarked text m) :
    ¬IsQuantity text n := by
  obtain ⟨mark, marked, digits, shape, -, -⟩ := h
  rintro ⟨mark', marked', digits', shape', -, denote⟩
  -- Both marks are the first two characters, so what follows them is the same.
  have both : mark ++ (innerMark ++ digits) = mark' ++ digits' := shape.symm.trans shape'
  have lengths : mark.length = mark'.length := by
    rw [length_of_mem_quantityMarks mark marked, length_of_mem_quantityMarks mark' marked']
  exact ne_innerMark_append denote.hex (List.append_inj both lengths).2.symm

/-! ## Quantities as scalars -/

/-- A mark of a quantity is one of a scalar. -/
theorem mem_hexMarks {mark : List Char} (h : mark ∈ quantityMarks) : mark ∈ hexMarks :=
  List.mem_cons_of_mem _ h

/-- A quantity with a digit is a scalar of the same number. -/
theorem IsQuantity.ofScalar? (h : IsQuantity text w.toNat) (digit : 2 < text.length) :
    Word.ofScalar? text = some w := by
  obtain ⟨mark, marked, digits, shape, -, denote⟩ := h
  have nonempty : digits ≠ [] := by
    rintro rfl
    rw [← String.length_toList, shape, List.append_nil,
      length_of_mem_quantityMarks mark marked] at digit
    exact absurd digit (by decide)
  rw [Word.ofScalar?_of_hex shape (mem_hexMarks marked) nonempty denote.hex,
    hexNat?_eq_some_iff.mpr denote]
  exact Word.ofNat?_toNat w

/-- A text with two marks is no scalar, as the second mark is not part of the digits. -/
theorem IsTwiceMarked.ofScalar? {n : Nat} (h : IsTwiceMarked text n) : Word.ofScalar? text = none := by
  obtain ⟨mark, marked, digits, shape, -, denote⟩ := h
  have clear : ∀ c ∈ mark ++ (innerMark ++ digits), isBlank c = false := by
    intro c hc
    rcases List.mem_append.mp hc with front | back
    · exact isBlank_of_marked (mem_hexMarks marked) denote.hex c (List.mem_append_left digits front)
    · have inner : innerMark ∈ hexMarks := by decide
      exact isBlank_of_marked inner denote.hex c back
  have behind : dropHexMark (mark ++ (innerMark ++ digits)) = innerMark ++ digits := by
    rw [dropHexMark, afterHexMark?_eq_some_iff.mpr ⟨mark, marked, rfl⟩, Option.getD_some]
  rw [Word.ofScalar?_eq_none_iff]
  intro m _ written
  have read := (isScalar_iff.mp written).2
  rw [shape, trimBlanks_of_none clear, behind, hexNat?_eq_some_iff] at read
  exact ne_innerMark_append read.hex rfl

/-! ## The main theorem -/

/-- **What the reader of quantities takes.** It answers a word exactly if the text is a mark and at most
64 hex digits that denote the word, or if its digits carry a second mark, and it reports every other
text as a wrong answer. So it takes the quantities and nothing else exactly at the texts that are not
marked twice. A quantity with a digit is a hex scalar of the same word, and a text with two marks is no
scalar. -/
theorem quantity_reads (text : String) :
    (∀ w, quantity text = .ok w ↔ IsQuantity text w.toNat ∨ IsTwiceMarked text w.toNat) ∧
      ((∃ message, quantity text = .error (.invalidResponse message)) ↔
        ∀ n, ¬IsQuantity text n ∧ ¬IsTwiceMarked text n) ∧
      ((∀ w, quantity text = .ok w ↔ IsQuantity text w.toNat) ↔ ∀ n, ¬IsTwiceMarked text n) ∧
      (∀ w : Word, IsQuantity text w.toNat → 2 < text.length → Word.ofScalar? text = some w) ∧
      ∀ n, IsTwiceMarked text n → Word.ofScalar? text = none := by
  refine ⟨fun w => quantity_eq_ok_iff, quantity_eq_error_iff, ?_, fun w => IsQuantity.ofScalar?,
    fun n => IsTwiceMarked.ofScalar?⟩
  constructor
  · intro exact n twice
    obtain ⟨mark, marked, digits, shape, short, denote⟩ := twice
    obtain ⟨w, rfl⟩ := exists_word_of_digits short denote
    have twice : IsTwiceMarked text w.toNat := ⟨mark, marked, digits, shape, short, denote⟩
    exact twice.not_isQuantity ((exact w).mp (quantity_eq_ok_iff.mpr (.inr twice)))
  · intro once w
    rw [quantity_eq_ok_iff]
    exact or_iff_left (once w.toNat)

namespace InnerMark

/-- **Two marks are taken for one:** the text is read as 31, although it is no quantity and no scalar. -/
theorem second_mark_is_dropped :
    quantity "0x0x1f" = .ok 31 ∧ (∀ n, ¬IsQuantity "0x0x1f" n) ∧ Word.ofScalar? "0x0x1f" = none := by
  have twice : IsTwiceMarked "0x0x1f" (31 : Word).toNat :=
    ⟨['0', 'x'], by decide, ['1', 'f'], by decide, by decide, hexNat?_eq_some_iff.mp (by decide)⟩
  exact ⟨quantity_eq_ok_iff.mpr (.inr twice), fun n => twice.not_isQuantity, twice.ofScalar?⟩

/-- A quantity with a mark in upper case is read as the scalar that it is. -/
theorem upper_mark_is_read :
    quantity "0X1F" = .ok 31 ∧ Word.ofScalar? "0X1F" = some 31 := by
  have written : IsQuantity "0X1F" (31 : Word).toNat :=
    ⟨['0', 'X'], by decide, ['1', 'F'], by decide, by decide, hexNat?_eq_some_iff.mp (by decide)⟩
  obtain ⟨reads, -, -, scalar, -⟩ := quantity_reads "0X1F"
  exact ⟨(reads 31).mpr (.inl written), scalar 31 written (by decide)⟩

end InnerMark

end TransferLedger
