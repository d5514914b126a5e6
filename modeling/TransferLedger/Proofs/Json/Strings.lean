/-
# TransferLedger.Proofs.Json.Strings -- written strings are read back

A string is written with escapes for the quote, the backslash and the controls. Every other
character stands for itself, and none of its bytes can be taken for a quote or a backslash.
-/

import TransferLedger.Json.Printer
import TransferLedger.Json.Reading
import TransferLedger.Proofs.Text.Encoding

namespace TransferLedger.Json.Reading

open TransferLedger.Text TransferLedger.Text.Utf8

/-! ## Bytes that stand for themselves -/

/-- Whether a byte inside a string is taken as it is. -/
def standsAlone (b : UInt8) : Prop := b ≠ byte '"' ∧ ¬b < 32 ∧ b ≠ byte '\\'

theorem string?_alone {b : UInt8} (h : standsAlone b) (fuel : Nat) (front rest : List UInt8)
    (whole : Bool) :
    string? (fuel + 1) front whole (b :: rest) = string? fuel (b :: front) whole rest := by
  obtain ⟨quote, control, slash⟩ := h
  rw [string?.eq_def]
  simp only [quote, control, slash, ne_eq, not_false_eq_true, if_true, if_false]

theorem string?_standsAlone {bs : List UInt8} (h : ∀ b ∈ bs, standsAlone b) (fuel : Nat)
    (front rest : List UInt8) (whole : Bool) :
    string? (fuel + bs.length) front whole (bs ++ rest) =
      string? fuel (bs.reverse ++ front) whole rest := by
  induction bs generalizing front with
  | nil => rfl
  | cons b bs ih =>
    show string? (fuel + bs.length + 1) front whole (b :: (bs ++ rest)) = _
    rw [string?_alone (h b List.mem_cons_self), ih (fun x hx => h x (List.mem_cons_of_mem _ hx))]
    simp

theorem encodeChar_of_ascii {c : Char} (h : c.toNat < 128) :
    String.utf8EncodeChar c = [byte c] := encodeChar_ascii h

theorem toNat_byte {c : Char} (h : c.toNat < 128) : (byte c).toNat = c.toNat :=
  toNat_ofNat (by omega)

theorem standsAlone_of_toNat {b : UInt8} (quote : b.toNat ≠ 34) (slash : b.toNat ≠ 92)
    (control : 32 ≤ b.toNat) : standsAlone b := by
  refine ⟨fun h => quote (by rw [h]; rfl), fun h => ?_, fun h => slash (by rw [h]; rfl)⟩
  have below : b.toNat < 32 := UInt8.lt_iff_toNat_lt.mp h
  omega

theorem standsAlone_of_mem_encodeChar {c : Char} (quote : c ≠ '"') (slash : c ≠ '\\')
    (control : ¬c.toNat < 32) : ∀ b ∈ String.utf8EncodeChar c, standsAlone b := by
  intro b hb
  have ne : ∀ d : Char, c ≠ d → c.toNat ≠ d.toNat := fun d hd h => hd (Char.toNat_inj.mp h)
  by_cases ascii : c.toNat < 128
  · rw [encodeChar_of_ascii ascii, List.mem_singleton] at hb
    subst hb
    have hb := toNat_byte ascii
    exact standsAlone_of_toNat (by rw [hb]; exact ne '"' quote) (by rw [hb]; exact ne '\\' slash)
      (by omega)
  · have above := le_of_mem_encodeChar (Nat.le_of_not_lt ascii) b hb
    exact standsAlone_of_toNat (by omega) (by omega) (by omega)

/-! ## Escapes -/

theorem string?_shortEscape {e : Char} {x : UInt8} (hu : byte e ≠ byte 'u')
    (h : shortEscape? (byte e) = some x) (fuel : Nat) (front rest : List UInt8) (whole : Bool) :
    string? (fuel + 1) front whole (byte '\\' :: byte e :: rest) =
      string? fuel (x :: front) whole rest := by
  rw [string?, if_neg (by decide), if_neg (by decide), if_neg (by decide)]
  simp only [ne_eq, hu, not_false_eq_true, if_true, h]

theorem hexValue?_digitChar :
    ∀ d < 16, hexValue? (Char.ofNat (byte (Nat.digitChar d)).toNat) = some d := by decide

theorem hexFour?_digits {a b : Nat} (ha : a < 16) (hb : b < 16) (rest : List UInt8) :
    hexFour? (byte '0' :: byte '0' :: byte (Nat.digitChar a) :: byte (Nat.digitChar b) :: rest) =
      some (16 * a + b, rest) := by
  have zero : hexValue? (Char.ofNat (byte '0').toNat) = some 0 := hexValue?_digitChar 0 (by decide)
  simp [hexFour?, hexNat?, zero, hexValue?_digitChar a ha, hexValue?_digitChar b hb]

theorem string?_hexEscape {n : Nat} (hn : n < 32) (fuel : Nat) (front rest : List UInt8)
    (whole : Bool) :
    string? (fuel + 1) front whole (byte '\\' :: byte 'u' :: byte '0' :: byte '0' ::
        byte (Nat.digitChar (n / 16)) :: byte (Nat.digitChar (n % 16)) :: rest) =
      string? fuel (pushChar front n) whole rest := by
  rw [string?, if_neg (by decide), if_neg (by decide), if_neg (by decide)]
  simp only [ne_eq, not_true_eq_false, if_false,
    hexFour?_digits (show n / 16 < 16 by omega) (show n % 16 < 16 by omega)]
  rw [show 16 * (n / 16) + n % 16 = n by omega, if_pos (by omega)]

/-! ## Whole strings -/

/-- The bytes of the characters of a written string. -/
def written (cs : List Char) : List UInt8 :=
  (cs.flatMap escapeChar).flatMap String.utf8EncodeChar

theorem written_cons (c : Char) (cs : List Char) :
    written (c :: cs) = (escapeChar c).flatMap String.utf8EncodeChar ++ written cs := by
  simp [written]

/-- A character is written with a short escape, with a hex escape, or as itself. -/
theorem escapeChar_cases (c : Char) :
    (∃ e : Char, escapeChar c = ['\\', e] ∧ c.toNat < 128 ∧ e.toNat < 128 ∧ byte e ≠ byte 'u' ∧
      shortEscape? (byte e) = some (byte c)) ∨
    (escapeChar c = ['\\', 'u', '0', '0', Nat.digitChar (c.toNat / 16),
      Nat.digitChar (c.toNat % 16)] ∧ c.toNat < 32) ∨
    (escapeChar c = [c] ∧ c ≠ '"' ∧ c ≠ '\\' ∧ ¬c.toNat < 32) := by
  have eq : ∀ {n : Nat}, c.toNat = n → c = Char.ofNat n := by
    intro n h
    rw [← h, Char.ofNat_toNat]
  unfold escapeChar
  split
  case isTrue h => subst h; exact .inl ⟨'"', rfl, by decide⟩
  split
  case isTrue h => subst h; exact .inl ⟨'\\', rfl, by decide⟩
  split
  case isTrue h => subst h; exact .inl ⟨'n', rfl, by decide⟩
  split
  case isTrue h => subst h; exact .inl ⟨'r', rfl, by decide⟩
  split
  case isTrue h => subst h; exact .inl ⟨'t', rfl, by decide⟩
  split
  case isTrue h => rw [eq h]; exact .inl ⟨'b', rfl, by decide⟩
  split
  case isTrue h => rw [eq h]; exact .inl ⟨'f', rfl, by decide⟩
  split
  case isTrue h => exact .inr (.inl ⟨rfl, h⟩)
  case isFalse quote slash _ _ _ _ _ control => exact .inr (.inr ⟨rfl, quote, slash, control⟩)

theorem encodeChars_of_ascii {cs : List Char} (h : ∀ c ∈ cs, c.toNat < 128) :
    cs.flatMap String.utf8EncodeChar = cs.map byte := encodeChars_ascii h

/-- One written character is taken in one go or byte by byte, and never needs more fuel than it has
bytes. -/
theorem string?_escapeChar (c : Char) {fuel : Nat} (front rest : List UInt8) (whole : Bool)
    (enough : ((escapeChar c).flatMap String.utf8EncodeChar).length ≤ fuel) :
    ∃ left, fuel ≤ left + ((escapeChar c).flatMap String.utf8EncodeChar).length ∧
      string? fuel front whole ((escapeChar c).flatMap String.utf8EncodeChar ++ rest) =
        string? left ((String.utf8EncodeChar c).reverse ++ front) whole rest := by
  rcases escapeChar_cases c with
    ⟨e, written, ascii, letter, hu, short⟩ | ⟨written, control⟩ | ⟨written, quote, slash, control⟩
  · -- two bytes, read in one step
    have bytes : (escapeChar c).flatMap String.utf8EncodeChar = [byte '\\', byte e] := by
      rw [written, encodeChars_of_ascii (by simpa using letter)]
      rfl
    rw [bytes] at enough ⊢
    obtain ⟨left, rfl⟩ : ∃ left, fuel = left + 1 := ⟨fuel - 1, by simp at enough; omega⟩
    refine ⟨left, by simp, ?_⟩
    rw [encodeChar_of_ascii ascii]
    exact string?_shortEscape hu short left front rest whole
  · -- six bytes, read in one step
    have bytes : (escapeChar c).flatMap String.utf8EncodeChar =
        [byte '\\', byte 'u', byte '0', byte '0', byte (Nat.digitChar (c.toNat / 16)),
          byte (Nat.digitChar (c.toNat % 16))] := by
      have ascii : ∀ d < 16, (Nat.digitChar d).toNat < 128 := by decide
      rw [written, encodeChars_of_ascii]
      · rfl
      · intro d hd
        simp only [List.mem_cons, List.not_mem_nil, or_false] at hd
        rcases hd with rfl | rfl | rfl | rfl | rfl | rfl
        case inr.inr.inr.inr.inl => exact ascii _ (by omega)
        case inr.inr.inr.inr.inr => exact ascii _ (by omega)
        all_goals decide
    rw [bytes] at enough ⊢
    obtain ⟨left, rfl⟩ : ∃ left, fuel = left + 1 := ⟨fuel - 1, by simp at enough; omega⟩
    refine ⟨left, by simp, ?_⟩
    show string? (left + 1) front whole (_ :: _ :: _ :: _ :: _ :: _ :: rest) = _
    rw [string?_hexEscape control, pushChar, Char.ofNat_toNat]
  · -- the bytes of the character as they are, one step for each
    have bytes : (escapeChar c).flatMap String.utf8EncodeChar = String.utf8EncodeChar c := by
      rw [written, List.flatMap_cons, List.flatMap_nil, List.append_nil]
    rw [bytes] at enough ⊢
    refine ⟨fuel - (String.utf8EncodeChar c).length, by omega, ?_⟩
    rw [← string?_standsAlone (standsAlone_of_mem_encodeChar quote slash control),
      Nat.sub_add_cancel enough]

theorem string?_written {cs : List Char} {fuel : Nat} (front rest : List UInt8) (whole : Bool)
    (enough : (written cs).length < fuel) :
    string? fuel front whole (written cs ++ byte '"' :: rest) =
      some ((cs.flatMap String.utf8EncodeChar).reverse ++ front, whole, rest) := by
  induction cs generalizing fuel front with
  | nil =>
    obtain ⟨left, rfl⟩ : ∃ left, fuel = left + 1 := ⟨fuel - 1, by omega⟩
    show string? (left + 1) front whole (byte '"' :: rest) = _
    rw [string?.eq_def]
    rfl
  | cons c cs ih =>
    rw [written_cons, List.length_append] at enough
    obtain ⟨left, hleft, taken⟩ := string?_escapeChar c front (written cs ++ byte '"' :: rest) whole
      (show _ ≤ fuel by omega)
    rw [written_cons, List.append_assoc, taken, ih _ (by omega)]
    simp

theorem encode_quote (s : String) :
    encode (quote s) = byte '"' :: (written s.toList ++ [byte '"']) := by
  simp only [quote, encode_ofList, List.flatMap_cons, List.cons_append, List.flatMap_append,
    List.flatMap_nil, List.append_nil, written, encodeChar_of_ascii (c := '"') (by decide)]
  rfl

/-- **A written string is read back,** with the bytes that follow it. -/
theorem text?_written {s : String} {fuel : Nat} (rest : List UInt8)
    (enough : (written s.toList).length < fuel) :
    text? fuel (written s.toList ++ byte '"' :: rest) = some (some s, rest) := by
  rw [text?, string?_written _ _ _ enough]
  have bytes : (s.toList.flatMap String.utf8EncodeChar) = encode s := rfl
  simp [bytes, decode?_encode]

end TransferLedger.Json.Reading
