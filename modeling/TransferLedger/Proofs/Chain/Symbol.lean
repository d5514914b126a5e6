/-
# TransferLedger.Proofs.Chain.Symbol -- symbols come back from what contracts return

A contract returns its symbol in one of two forms. The standard form has a word for the offset, a word
for the length, and the bytes of the text filled up to whole words, so it has at least two words. The
older form is one word, the bytes of the text filled up with zero bytes. The reader tells them apart by
their length only, and gets the text back from either.
-/

import TransferLedger.Chain.Symbol
import TransferLedger.Proofs.Text.Encoding

namespace TransferLedger

open TransferLedger.Text

/-! ## Words -/

/-- The bytes of a number in a given width, most significant first. -/
def bigEndianBytes : (width n : Nat) → List UInt8
  | 0, _ => []
  | width + 1, n => bigEndianBytes width (n / 256) ++ [UInt8.ofNat (n % 256)]

@[simp] theorem length_bigEndianBytes (width n : Nat) : (bigEndianBytes width n).length = width := by
  induction width generalizing n with
  | zero => rfl
  | succ width ih => simp [bigEndianBytes, ih]

theorem bigEndian_concat (bytes : List UInt8) (b : UInt8) :
    bigEndian (bytes ++ [b]) = 256 * bigEndian bytes + b.toNat := by
  simp [bigEndian]

/-- A number comes back from its bytes if they are enough for it. -/
theorem bigEndian_bigEndianBytes {width n : Nat} (h : n < 256 ^ width) :
    bigEndian (bigEndianBytes width n) = n := by
  induction width generalizing n with
  | zero =>
    rw [Nat.pow_zero] at h
    rw [Nat.lt_one_iff.mp h]
    rfl
  | succ width ih =>
    have front : n / 256 < 256 ^ width := by
      rw [Nat.pow_succ, Nat.mul_comm] at h
      exact Nat.div_lt_of_lt_mul h
    rw [bigEndianBytes, bigEndian_concat, ih front, Utf8.toNat_ofNat (Nat.mod_lt n (by decide))]
    exact Nat.div_add_mod n 256

/-- **The word of a number.** -/
def abiWord (n : Nat) : List UInt8 := bigEndianBytes wordBytes n

@[simp] theorem length_abiWord (n : Nat) : (abiWord n).length = wordBytes := length_bigEndianBytes _ _

theorem wordAt?_abiWord {offset n : Nat} {front : List UInt8} (place : front.length = offset)
    (back : List UInt8) (h : n < 2 ^ 256) : wordAt? (front ++ (abiWord n ++ back)) offset = some n := by
  have inside : offset + wordBytes ≤ (front ++ (abiWord n ++ back)).length := by
    simp only [List.length_append, length_abiWord, place, wordBytes]
    omega
  have word : ((front ++ (abiWord n ++ back)).drop offset).take wordBytes = abiWord n := by
    rw [List.drop_left' place, List.take_left' (length_abiWord n)]
  have fits : n < 256 ^ wordBytes := Nat.lt_of_lt_of_le h (by decide)
  rw [wordAt?, if_pos inside, word, abiWord, bigEndian_bigEndianBytes fits]

/-! ## The standard form -/

/-- How many bytes are missing to whole words. -/
def padding (length : Nat) : Nat := (wordBytes - length % wordBytes) % wordBytes

/-- **A text in the standard form.** -/
def abiText (s : String) : List UInt8 :=
  let bytes := Utf8.encode s
  abiWord wordBytes ++ (abiWord bytes.length ++ (bytes ++ List.replicate (padding bytes.length) 0))

/-- The standard form is made of whole words, of which there are two at least. -/
theorem length_abiText (s : String) :
    wordBytes ∣ (abiText s).length ∧ 2 * wordBytes ≤ (abiText s).length := by
  simp only [abiText, List.length_append, length_abiWord, List.length_replicate, padding, wordBytes]
  omega

/-- The bytes behind their length are found, whatever follows them. -/
theorem returnedBytes?_words {bytes : List UInt8} (rest : List UInt8) (h : bytes.length < 2 ^ 256) :
    returnedBytes? (abiWord wordBytes ++ (abiWord bytes.length ++ (bytes ++ rest))) = some bytes := by
  have offset : wordAt? (abiWord wordBytes ++ (abiWord bytes.length ++ (bytes ++ rest))) 0 =
      some wordBytes := by
    have first := wordAt?_abiWord (n := wordBytes) (List.length_nil (α := UInt8))
      (abiWord bytes.length ++ (bytes ++ rest)) (by decide)
    rwa [List.nil_append] at first
  have length : wordAt? (abiWord wordBytes ++ (abiWord bytes.length ++ (bytes ++ rest))) wordBytes =
      some bytes.length := wordAt?_abiWord (length_abiWord wordBytes) _ h
  have inside : wordBytes + wordBytes + bytes.length ≤
      (abiWord wordBytes ++ (abiWord bytes.length ++ (bytes ++ rest))).length := by
    simp only [List.length_append, length_abiWord, wordBytes]
    omega
  have behind : (abiWord wordBytes ++ (abiWord bytes.length ++ (bytes ++ rest))).drop
      (wordBytes + wordBytes) = bytes ++ rest := by
    rw [← List.append_assoc]
    exact List.drop_left' (by simp [wordBytes])
  simp only [returnedBytes?, offset, length, Option.bind_eq_bind, Option.bind_some, if_pos inside,
    behind, List.take_left']
  rfl

/-- **The symbol in the standard form of a text is the text.** -/
theorem symbolOf_abiText {s : String} (h : (Utf8.encode s).length < 2 ^ 256) :
    symbolOf (abiText s) = .ok s := by
  obtain ⟨-, long⟩ := length_abiText s
  have several : ¬(abiText s).length = wordBytes ∧ ¬(abiText s).length < wordBytes := by
    rw [wordBytes] at long ⊢
    omega
  have text : returnedBytes? (abiText s) = some (Utf8.encode s) := returnedBytes?_words _ h
  rw [symbolOf, if_neg several.1, if_neg several.2, text]
  show Except.ok (Utf8.decodeLossy (s.toList.flatMap String.utf8EncodeChar)) = _
  rw [Utf8.decodeLossy_encodeChars, String.ofList_toList]

/-! ## The older form -/

/-- **A text in the older form.** -/
def paddedText (s : String) : List UInt8 :=
  Utf8.encode s ++ List.replicate (wordBytes - (Utf8.encode s).length) 0

theorem length_paddedText {s : String} (h : (Utf8.encode s).length ≤ wordBytes) :
    (paddedText s).length = wordBytes := by
  rw [paddedText, List.length_append, List.length_replicate, Nat.add_sub_cancel' h]

/-- The zero byte stands for the zero character only. -/
theorem ne_zero_of_mem_encode {s : String} (h : '\x00' ∉ s.toList) : ∀ b ∈ Utf8.encode s, b ≠ 0 := by
  intro b hb
  obtain ⟨c, hc, hb⟩ := List.mem_flatMap.mp hb
  rintro rfl
  by_cases ascii : c.toNat < 128
  · rw [Utf8.encodeChar_ascii ascii, List.mem_singleton] at hb
    have zero : c.toNat = 0 := by
      have same := congrArg UInt8.toNat hb
      rw [Utf8.toNat_ofNat (by omega)] at same
      exact same.symm
    have null : c = '\x00' := by rw [← Char.ofNat_toNat c, zero]
    exact h (null ▸ hc)
  · exact absurd (Utf8.le_of_mem_encodeChar (Nat.le_of_not_lt ascii) 0 hb) (by decide)

/-- **The symbol in the older form of a text is the text.** -/
theorem symbolOf_paddedText {s : String} (clear : '\x00' ∉ s.toList)
    (short : (Utf8.encode s).length ≤ wordBytes) : symbolOf (paddedText s) = .ok s := by
  -- No byte of the text is zero, so the reader stops where the filling starts, and not before.
  have text : (paddedText s).takeWhile (· != 0) = Utf8.encode s := by
    have whole : ∀ b ∈ Utf8.encode s, (b != 0) = true := by
      intro b hb
      simpa using ne_zero_of_mem_encode clear b hb
    have stop : (List.replicate (wordBytes - (Utf8.encode s).length) (0 : UInt8)).takeWhile (· != 0) =
        [] := by
      rw [List.takeWhile_replicate]
      rfl
    rw [paddedText, List.takeWhile_append_of_pos whole, stop, List.append_nil]
  rw [symbolOf, if_pos (length_paddedText short), text, Utf8.decode?_encode]

/-! ## The main theorem -/

theorem exists_error_of_short {bytes : List UInt8} (h : bytes.length < wordBytes) :
    ∃ e, symbolOf bytes = .error e := by
  rw [symbolOf, if_neg (Nat.ne_of_lt h), if_pos h]
  exact ⟨_, rfl⟩

/-- **Symbols come back from both forms.** The symbol in the standard form of a text is the text,
whatever its characters, and so is the symbol in the older form of a text without the zero character
and of at most 32 bytes. No bytes are of both forms, and fewer bytes than a word are refused. -/
theorem symbols_recovered :
    (∀ s, (Utf8.encode s).length < 2 ^ 256 → symbolOf (abiText s) = .ok s) ∧
      (∀ s, '\x00' ∉ s.toList → (Utf8.encode s).length ≤ 32 → symbolOf (paddedText s) = .ok s) ∧
      (∀ s t, (Utf8.encode t).length ≤ 32 → abiText s ≠ paddedText t) ∧
      ∀ bytes, bytes.length < 32 → ∃ e, symbolOf bytes = .error e := by
  refine ⟨fun s => symbolOf_abiText, fun s => symbolOf_paddedText, fun s t short same => ?_,
    fun bytes => exists_error_of_short⟩
  obtain ⟨-, long⟩ := length_abiText s
  rw [same, length_paddedText short] at long
  exact absurd long (by decide)

namespace FullWord

/-- Sixteen characters of two bytes, which fill a word so that no zero byte ends them. -/
def symbol : String := "ΞΞΞΞΞΞΞΞΞΞΞΞΞΞΞΞ"

/-- A symbol that fills a word is read from either form. Without its last byte it is refused. -/
theorem full_symbol_is_read :
    (Utf8.encode symbol).length = 32 ∧ symbolOf (abiText symbol) = .ok symbol ∧
      symbolOf (paddedText symbol) = .ok symbol ∧ abiText symbol ≠ paddedText symbol ∧
      ∃ e, symbolOf ((paddedText symbol).take 31) = .error e := by
  have full : (Utf8.encode symbol).length = 32 := by decide +kernel
  obtain ⟨standard, older, apart, short⟩ := symbols_recovered
  exact ⟨full, standard symbol (by decide +kernel), older symbol (by decide +kernel) (Nat.le_of_eq full),
    apart symbol symbol (Nat.le_of_eq full), short _ (by decide +kernel)⟩

end FullWord

end TransferLedger
