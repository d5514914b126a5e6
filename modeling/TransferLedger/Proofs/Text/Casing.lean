/-
# TransferLedger.Proofs.Text.Casing -- text and bytes in lower case

The letters whose case does not count are characters of one byte, and a byte of a longer character is
never one of them. So a text can be put into lower case byte by byte, wherever its bytes are cut, and
what lenient reading makes of the bytes is then in lower case too. Neither the blanks around a scalar
nor its mark or its digits depend on letter case, so its number does not either.
-/

import TransferLedger.Proofs.Number.Hex
import TransferLedger.Proofs.Text.Encoding

namespace TransferLedger.Text

/-! ## Characters -/

theorem toLower_ofNat {n : Nat} (h : 128 ≤ n) : (Char.ofNat n).toLower = Char.ofNat n := by
  by_cases valid : n.isValidChar
  · have same : (Char.ofNat n).toNat = n := by
      rw [Char.ofNat, dif_pos valid]
      rfl
    exact toLower_of_le (by rwa [same])
  · rw [Char.ofNat, dif_neg valid]
    rfl

/-! ## Bytes -/

namespace Utf8

theorem byte_cases {p : UInt8 → Prop} (all : ∀ n < 256, p (UInt8.ofNat n)) (b : UInt8) : p b := by
  rw [← UInt8.ofNat_toNat (x := b)]
  exact all b.toNat b.toNat_lt

/-- A byte in lower case. -/
def lowerByte (b : UInt8) : UInt8 := if 0x41 ≤ b ∧ b ≤ 0x5A then b + 0x20 else b

theorem lowerByte_of_le {b : UInt8} (h : 128 ≤ b.toNat) : lowerByte b = b := by
  refine if_neg ?_
  rintro ⟨-, capital⟩
  have below : b.toNat ≤ 0x5A := capital
  omega

theorem toNat_lowerByte_lt {b : UInt8} (h : b.toNat < 128) : (lowerByte b).toNat < 128 := by
  have all : ∀ b : UInt8, b.toNat < 128 → (lowerByte b).toNat < 128 :=
    byte_cases (by decide +kernel)
  exact all b h

theorem encodeChar_toLower (c : Char) :
    String.utf8EncodeChar c.toLower = (String.utf8EncodeChar c).map lowerByte := by
  refine char_cases (p := fun c => String.utf8EncodeChar c.toLower =
    (String.utf8EncodeChar c).map lowerByte) (by decide +kernel) (fun c large same => ?_) c
  rw [same]
  have alone : ∀ b ∈ String.utf8EncodeChar c, lowerByte b = id b := fun b hb =>
    lowerByte_of_le (le_of_mem_encodeChar large b hb)
  rw [List.map_congr_left alone, List.map_id]

/-- **A text is put into lower case byte by byte.** -/
theorem encodeChars_toLower (cs : List Char) :
    (cs.map Char.toLower).flatMap String.utf8EncodeChar =
      (cs.flatMap String.utf8EncodeChar).map lowerByte := by
  rw [List.flatMap_map, List.map_flatMap]
  exact congrArg (cs.flatMap ·) (funext encodeChar_toLower)

/-! ## Reading -/

/-- A sequence that can only end in a character past the ASCII range. -/
def Pending.isLong (p : Pending) : Bool :=
  0 < p.owed && 0x80 ≤ p.low && 128 ≤ p.value * 64 ^ p.owed + (p.low - 0x80) * 64 ^ (p.owed - 1)

/-- What a first byte starts, in lower case. -/
def Start.lower : Start → Start
  | .whole c => .whole c.toLower
  | other => other

/-- What a first byte starts is a character or can only end past the ASCII range. -/
def Start.isLong : Start → Bool
  | .longer p => p.isLong
  | _ => true

theorem start_lowerByte (b : UInt8) : start (lowerByte b) = (start b).lower :=
  byte_cases (p := fun b => start (lowerByte b) = (start b).lower) (by decide +kernel) b

theorem isLong_start (b : UInt8) : (start b).isLong = true :=
  byte_cases (p := fun b => (start b).isLong = true) (by decide +kernel) b

/-- A byte that is owed leaves a sequence long. -/
theorem Pending.isLong_next {p : Pending} (long : p.isLong = true) {b : UInt8}
    (inside : p.low ≤ b.toNat) (more : p.owed ≠ 1) :
    Pending.isLong ⟨p.owed - 1, 0x80, 0xBF, p.value * 64 + (b.toNat - 0x80)⟩ = true := by
  obtain ⟨owed, low, high, value⟩ := p
  simp only [Pending.isLong, Bool.and_eq_true, decide_eq_true_eq] at long inside more ⊢
  obtain ⟨⟨some, ascii⟩, large⟩ := long
  obtain ⟨n, rfl⟩ : ∃ n, owed = n + 2 := ⟨owed - 2, by omega⟩
  refine ⟨⟨by omega, Nat.le_refl _⟩, ?_⟩
  calc 128 ≤ value * 64 ^ (n + 2) + (low - 0x80) * 64 ^ (n + 1) := large
    _ ≤ value * 64 ^ (n + 2) + (b.toNat - 0x80) * 64 ^ (n + 1) :=
      Nat.add_le_add_left (Nat.mul_le_mul_right _ (by omega)) _
    _ = (value * 64 + (b.toNat - 0x80)) * 64 ^ (n + 1) := by
      rw [Nat.pow_succ 64 (n + 1), Nat.add_mul, Nat.mul_assoc value, Nat.mul_comm 64]
    _ ≤ (value * 64 + (b.toNat - 0x80)) * 64 ^ (n + 1) + (0x80 - 0x80) * 64 ^ (n + 1 - 1) :=
      Nat.le_add_right _ _

/-- The last byte that is owed ends a long sequence in a character past the ASCII range. -/
theorem Pending.le_of_isLong {p : Pending} (long : p.isLong = true) {n : Nat}
    (inside : p.low ≤ n) (last : p.owed = 1) : 128 ≤ p.value * 64 + (n - 0x80) := by
  obtain ⟨owed, low, high, value⟩ := p
  cases last
  simp only [Pending.isLong, Bool.and_eq_true, decide_eq_true_eq] at long inside ⊢
  omega

/-- A byte that a sequence is not owed ends it and is read as the first of what follows. -/
theorem scan_outside {p : Pending} {b : UInt8} (rest : List UInt8)
    (outside : ¬(p.low ≤ b.toNat ∧ b.toNat ≤ p.high)) :
    scan (some p) (b :: rest) = none :: scan none (b :: rest) := by
  simp only [scan, if_neg outside]
  cases start b <;> rfl

theorem Pending.le_low {p : Pending} (long : p.isLong = true) : 128 ≤ p.low := by
  simp only [Pending.isLong, Bool.and_eq_true, decide_eq_true_eq] at long
  exact long.1.2

/-- No letter is owed to a long sequence. -/
theorem Pending.inside_lowerByte {p : Pending} (long : p.isLong = true) (b : UInt8) :
    (p.low ≤ (lowerByte b).toNat ∧ (lowerByte b).toNat ≤ p.high) ↔
      (p.low ≤ b.toNat ∧ b.toNat ≤ p.high) := by
  have ascii := p.le_low long
  by_cases past : 128 ≤ b.toNat
  · rw [lowerByte_of_le past]
  · have below := toNat_lowerByte_lt (Nat.lt_of_not_le past)
    omega

/-- **The characters of bytes in lower case** are the characters of the bytes in lower case. A byte
that a sequence is owed is past the ASCII range, and so is the character that the sequence ends in. -/
theorem scan_map_lowerByte (bytes : List UInt8) :
    ∀ state : Option Pending, state.all Pending.isLong = true →
      scan state (bytes.map lowerByte) = (scan state bytes).map (Option.map Char.toLower) := by
  induction bytes with
  | nil =>
    rintro (_ | p) - <;> rfl
  | cons b rest ih =>
    -- What `b` starts, which is also what it starts after a sequence that is not owed it.
    have first : scan none ((b :: rest).map lowerByte) =
        (scan none (b :: rest)).map (Option.map Char.toLower) := by
      have long := isLong_start b
      rw [List.map_cons, scan, scan, start_lowerByte]
      cases starts : start b with
      | whole c => exact congrArg (some c.toLower :: ·) (ih none rfl)
      | longer p =>
        rw [starts] at long
        exact ih (some p) long
      | bad => exact congrArg (none :: ·) (ih none rfl)
    rintro (_ | p) pending
    · exact first
    · have long : p.isLong = true := pending
      by_cases inside : p.low ≤ b.toNat ∧ b.toNat ≤ p.high
      · have same : lowerByte b = b := lowerByte_of_le (Nat.le_trans (p.le_low long) inside.1)
        simp only [List.map_cons, same, scan, if_pos inside]
        by_cases last : p.owed = 1
        · rw [if_pos last, if_pos last, List.map_cons, Option.map_some,
            toLower_ofNat (p.le_of_isLong long inside.1 last), ih none rfl]
        · rw [if_neg last, if_neg last]
          exact ih _ (p.isLong_next long inside.1 last)
      · have apart : ¬(p.low ≤ (lowerByte b).toNat ∧ (lowerByte b).toNat ≤ p.high) := by
          rwa [p.inside_lowerByte long b]
        rw [List.map_cons, scan_outside _ apart, scan_outside _ inside]
        exact congrArg (none :: ·) first

/-- **Bytes in lower case are read as the text in lower case,** whatever bytes they are. -/
theorem decodeLossy_map_lowerByte (bytes : List UInt8) :
    decodeLossy (bytes.map lowerByte) = lower (decodeLossy bytes) := by
  have each : ∀ c : Option Char,
      (c.map Char.toLower).getD (Char.ofNat 0xFFFD) = (c.getD (Char.ofNat 0xFFFD)).toLower := by
    rintro (_ | c) <;> rfl
  rw [decodeLossy, scan_map_lowerByte bytes none rfl, decodeLossy, lower, String.toList_ofList,
    List.map_map, List.map_map]
  exact congrArg String.ofList (List.map_congr_left fun c _ => each c)

end Utf8

/-! ## Scalars -/

theorem isBlank_toLower (c : Char) : isBlank c.toLower = isBlank c :=
  char_cases (p := fun c => isBlank c.toLower = isBlank c) (by decide)
    (fun _ _ same => congrArg isBlank same) c

theorem trimBlanks_map_toLower (cs : List Char) :
    trimBlanks (cs.map Char.toLower) = (trimBlanks cs).map Char.toLower := by
  have same : isBlank ∘ Char.toLower = isBlank := funext isBlank_toLower
  simp only [trimBlanks, List.dropWhile_map, same, ← List.map_reverse]

theorem dropHexMark_map_toLower (cs : List Char) :
    dropHexMark (cs.map Char.toLower) = (dropHexMark cs).map Char.toLower := by
  rw [dropHexMark, afterHexMark?_map_toLower, dropHexMark]
  cases afterHexMark? cs <;> rfl

/-- **The letter case of a scalar is of no account.** -/
theorem ofScalar?_lower (s : String) : Word.ofScalar? (lower s) = Word.ofScalar? s := by
  rw [Word.ofScalar?, toList_lower, trimBlanks_map_toLower, dropHexMark_map_toLower, Word.ofScalar?]
  cases dropHexMark (trimBlanks s.toList) with
  | nil => rfl
  | cons c cs => exact congrArg (Option.bind · Word.ofNat?) (hexNat?_map_toLower (c :: cs))

theorem ofScalar?_comp_lower : Word.ofScalar? ∘ lower = Word.ofScalar? := by
  funext s
  rw [Function.comp_apply, ofScalar?_lower]

end TransferLedger.Text
