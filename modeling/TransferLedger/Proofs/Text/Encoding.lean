/-
# TransferLedger.Proofs.Text.Encoding -- bytes of a text are read back as the text

The reader of bytes takes one character at a time off an encoded text. A character of several bytes
starts with a byte that tells how many are owed, and each owed byte adds six bits.
-/

import TransferLedger.Proofs.Fallible
import TransferLedger.Text.Utf8

namespace TransferLedger.Text.Utf8

@[simp] theorem encode_append (s t : String) : encode (s ++ t) = encode s ++ encode t := by
  simp [encode]

@[simp] theorem encode_ofList (cs : List Char) :
    encode (String.ofList cs) = cs.flatMap String.utf8EncodeChar := by
  simp [encode]

/-! ## ASCII -/

theorem toNat_ofNat {n : Nat} (h : n < 256) : (UInt8.ofNat n).toNat = n :=
  UInt8.toNat_ofNat_of_lt' h

theorem encodeChar_ascii {c : Char} (h : c.toNat < 128) :
    String.utf8EncodeChar c = [UInt8.ofNat c.toNat] := by
  have short : c.val.toNat ≤ 0x7f := Nat.le_of_lt_succ h
  unfold String.utf8EncodeChar
  simp only [short, if_true]
  rfl

/-- An ASCII text has one byte for each character. -/
theorem encodeChars_ascii {cs : List Char} (h : ∀ c ∈ cs, c.toNat < 128) :
    cs.flatMap String.utf8EncodeChar = cs.map fun c => UInt8.ofNat c.toNat := by
  induction cs with
  | nil => rfl
  | cons c cs ih =>
    rw [List.flatMap_cons, encodeChar_ascii (h c List.mem_cons_self),
      ih fun d hd => h d (List.mem_cons_of_mem _ hd)]
    rfl

/-- Past the ASCII range every byte of a character is above it. -/
theorem le_of_mem_encodeChar {c : Char} (h : 128 ≤ c.toNat) :
    ∀ b ∈ String.utf8EncodeChar c, 128 ≤ b.toNat := by
  have long : ¬c.val.toNat ≤ 0x7f := Nat.not_le_of_gt h
  have above : ∀ n, 128 ≤ n → n < 256 → 128 ≤ (UInt8.ofNat n).toNat := by
    intro n low high
    rwa [toNat_ofNat high]
  intro b hb
  unfold String.utf8EncodeChar at hb
  simp only [long, if_false] at hb
  split at hb
  case isTrue =>
    simp only [List.mem_cons, List.not_mem_nil, or_false] at hb
    rcases hb with rfl | rfl <;> exact above _ (by omega) (by omega)
  split at hb
  case isTrue =>
    simp only [List.mem_cons, List.not_mem_nil, or_false] at hb
    rcases hb with rfl | rfl | rfl <;> exact above _ (by omega) (by omega)
  case isFalse =>
    simp only [List.mem_cons, List.not_mem_nil, or_false] at hb
    rcases hb with rfl | rfl | rfl | rfl <;> exact above _ (by omega) (by omega)

/-! ## One character -/

/-- The last byte that is owed ends the character. -/
theorem scan_last {low high value m : Nat} (rest : List UInt8) (hm : m < 64)
    (hlow : low ≤ m + 0x80) (hhigh : m + 0x80 ≤ high) :
    scan (some ⟨1, low, high, value⟩) (UInt8.ofNat (m + 0x80) :: rest) =
      some (Char.ofNat (value * 64 + m)) :: scan none rest := by
  simp only [scan, toNat_ofNat (n := m + 0x80) (by omega)]
  rw [if_pos ⟨hlow, hhigh⟩]
  simp

/-- A byte that is owed adds its six bits. -/
theorem scan_owed {owed low high value m : Nat} (rest : List UInt8) (hm : m < 64)
    (hlow : low ≤ m + 0x80) (hhigh : m + 0x80 ≤ high) :
    scan (some ⟨owed + 2, low, high, value⟩) (UInt8.ofNat (m + 0x80) :: rest) =
      scan (some ⟨owed + 1, 0x80, 0xBF, value * 64 + m⟩) rest := by
  simp only [scan, toNat_ofNat (n := m + 0x80) (by omega)]
  rw [if_pos ⟨hlow, hhigh⟩]
  simp

theorem scan_longer {b : UInt8} {p : Pending} (rest : List UInt8) (h : start b = .longer p) :
    scan none (b :: rest) = scan (some p) rest := by
  simp only [scan, h]

theorem start_two {v : Nat} (h : 0x7f < v) (h' : v ≤ 0x7ff) :
    start (UInt8.ofNat (v / 64 % 0x20 + 0xc0)) = .longer ⟨1, 0x80, 0xBF, v / 64⟩ := by
  have hb : (UInt8.ofNat (v / 64 % 0x20 + 0xc0)).toNat = v / 64 + 0xc0 := by
    rw [toNat_ofNat (by omega)]
    omega
  simp only [start, hb]
  rw [if_neg (by omega), if_pos (by omega)]
  simp

/-- The ranges after the first byte of three keep out short forms and surrogates, which no
character has. -/
theorem start_three {v : Nat} (h : 0x7ff < v) (h' : v ≤ 0xffff)
    (hv : v < 0xd800 ∨ 0xdfff < v) :
    ∃ low high, start (UInt8.ofNat (v / 4096 % 0x10 + 0xe0)) = .longer ⟨2, low, high, v / 4096⟩ ∧
      low ≤ v / 64 % 0x40 + 0x80 ∧ v / 64 % 0x40 + 0x80 ≤ high := by
  have hb : (UInt8.ofNat (v / 4096 % 0x10 + 0xe0)).toNat = v / 4096 + 0xe0 := by
    rw [toNat_ofNat (by omega)]
    omega
  simp only [start, hb]
  rw [if_neg (by omega), if_neg (by omega)]
  by_cases zero : v / 4096 = 0
  · rw [if_pos (by omega)]
    exact ⟨_, _, by rw [zero], by omega, by omega⟩
  rw [if_neg (by omega)]
  by_cases surrogates : v / 4096 = 0xd
  · rw [if_pos (by omega)]
    exact ⟨_, _, by rw [surrogates], by omega, by omega⟩
  rw [if_neg (by omega), if_pos (by omega)]
  exact ⟨0x80, 0xBF, by simp, by omega, by omega⟩

/-- The ranges after the first byte of four keep out short forms and what lies past the last
character. -/
theorem start_four {v : Nat} (h : 0xffff < v) (h' : v < 0x110000) :
    ∃ low high, start (UInt8.ofNat (v / 262144 % 0x08 + 0xf0)) =
        .longer ⟨3, low, high, v / 262144⟩ ∧
      low ≤ v / 4096 % 0x40 + 0x80 ∧ v / 4096 % 0x40 + 0x80 ≤ high := by
  have hb : (UInt8.ofNat (v / 262144 % 0x08 + 0xf0)).toNat = v / 262144 + 0xf0 := by
    rw [toNat_ofNat (by omega)]
    omega
  simp only [start, hb]
  rw [if_neg (by omega), if_neg (by omega), if_neg (by omega), if_neg (by omega),
    if_neg (by omega)]
  by_cases zero : v / 262144 = 0
  · rw [if_pos (by omega)]
    exact ⟨_, _, by rw [zero], by omega, by omega⟩
  rw [if_neg (by omega)]
  by_cases last : v / 262144 = 4
  · rw [if_neg (by omega), if_pos (by omega)]
    exact ⟨_, _, by rw [last], by omega, by omega⟩
  rw [if_pos (by omega)]
  exact ⟨0x80, 0xBF, by simp, by omega, by omega⟩

theorem scan_encodeChar (c : Char) (rest : List UInt8) :
    scan none (String.utf8EncodeChar c ++ rest) = some c :: scan none rest := by
  obtain ⟨v, hv⟩ : ∃ v, c.val.toNat = v := ⟨_, rfl⟩
  have back : Char.ofNat v = c := by rw [← hv]; exact Char.ofNat_toNat c
  have valid : v < 0xd800 ∨ (0xdfff < v ∧ v < 0x110000) := hv ▸ c.valid
  -- One case for each number of bytes that a character is encoded in.
  unfold String.utf8EncodeChar
  simp only [hv]
  split
  case isTrue one =>
    have hb : (UInt8.ofNat v).toNat = v := toNat_ofNat (by omega)
    show scan none (UInt8.ofNat v :: rest) = _
    have first : start (UInt8.ofNat v) = .whole c := by
      simp only [start, hb, back]
      rw [if_pos (by omega)]
    simp only [scan, first]
  split
  case isTrue two =>
    show scan none (_ :: _ :: rest) = _
    rw [scan_longer _ (start_two (by omega) two), scan_last rest (by omega) (by omega) (by omega),
      show v / 64 * 64 + v % 64 = v by omega, back]
  split
  case isTrue three =>
    show scan none (_ :: _ :: _ :: rest) = _
    obtain ⟨low, high, first, hlow, hhigh⟩ := start_three (v := v) (by omega) three (by omega)
    rw [scan_longer _ first, scan_owed _ (by omega) hlow hhigh,
      scan_last rest (by omega) (by omega) (by omega),
      show (v / 4096 * 64 + v / 64 % 64) * 64 + v % 64 = v by omega, back]
  case isFalse four =>
    show scan none (_ :: _ :: _ :: _ :: rest) = _
    obtain ⟨low, high, first, hlow, hhigh⟩ := start_four (v := v) (by omega) (by omega)
    rw [scan_longer _ first, scan_owed _ (by omega) hlow hhigh,
      scan_owed _ (by omega) (by omega) (by omega), scan_last rest (by omega) (by omega) (by omega),
      show ((v / 262144 * 64 + v / 4096 % 64) * 64 + v / 64 % 64) * 64 + v % 64 = v by omega, back]

/-! ## Whole texts -/

theorem scan_encodeChars (cs : List Char) :
    scan none (cs.flatMap String.utf8EncodeChar) = cs.map some := by
  induction cs with
  | nil => rfl
  | cons c cs ih => rw [List.flatMap_cons, scan_encodeChar, ih, List.map_cons]

/-- **Strict reading of the bytes of a text gives the text.** -/
theorem decode?_encode (s : String) : decode? (encode s) = some s := by
  rw [decode?, encode, scan_encodeChars, Fallible.mapM_id_eq_some_iff.mpr rfl]
  simp

/-- Lenient reading of the bytes of a text gives the text. -/
theorem decodeLossy_encodeChars (cs : List Char) :
    decodeLossy (cs.flatMap String.utf8EncodeChar) = String.ofList cs := by
  rw [decodeLossy, scan_encodeChars, List.map_map]
  simp [Function.comp_def]

end TransferLedger.Text.Utf8
