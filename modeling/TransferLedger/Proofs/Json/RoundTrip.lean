/-
# TransferLedger.Proofs.Json.RoundTrip -- written documents are read back

A document whose numbers are integers that fit is read back from its text as it is, whatever follows
it. The reader needs no more fuel than there are bytes.
-/

import Mathlib.Data.Option.Basic
import TransferLedger.Proofs.Json.Strings
import TransferLedger.Proofs.Number.Decimal

namespace TransferLedger.Json

open TransferLedger.Number TransferLedger.Text.Utf8

/-! ## Documents without fractions -/

/-- Whether a number is an integer that a reading keeps exactly. -/
def Number.isKept : Json.Number → Bool
  | .integer n => -(2 ^ 63) ≤ n && n < 2 ^ 64
  | .fraction _ => false

mutual

/-- Whether all numbers of a document are kept exactly. -/
def isKept : Json → Bool
  | .num n => n.isKept
  | .arr items => areItemsKept items
  | .obj fields => areFieldsKept fields
  | _ => true
termination_by structural j => j

/-- Whether all numbers of some items are kept exactly. -/
def areItemsKept : List Json → Bool
  | [] => true
  | j :: rest => isKept j && areItemsKept rest
termination_by structural js => js

/-- Whether all numbers of some fields are kept exactly. -/
def areFieldsKept : List (String × Json) → Bool
  | [] => true
  | f :: rest => isFieldKept f && areFieldsKept rest
termination_by structural fs => fs

/-- Whether all numbers of a field are kept exactly. -/
def isFieldKept : String × Json → Bool
  | (_, value) => isKept value
termination_by structural f => f

end

namespace Reading

/-! ## Numbers -/

/-- Whether a number can end in front of some bytes. -/
def endsNumber (rest : List UInt8) : Prop :=
  ∀ b ∈ rest.head?, isDigitByte b = false ∧ b ≠ byte '.' ∧ b ≠ byte 'e' ∧ b ≠ byte 'E'

theorem isDigit_iff {c : Char} : c.isDigit = true ↔ 48 ≤ c.toNat ∧ c.toNat ≤ 57 :=
  Char.isDigit_iff_toNat

theorem digitOf_byte {c : Char} (h : c.isDigit = true) : digitOf (byte c) = c.toNat - '0'.toNat := by
  have range := isDigit_iff.mp h
  rw [digitOf, toNat_byte (by omega)]
  rfl

theorem isDigitByte_byte {c : Char} (h : c.isDigit = true) : isDigitByte (byte c) = true := by
  have range := isDigit_iff.mp h
  have hc : (byte c).toNat = c.toNat := toNat_byte (by omega)
  simp only [isDigitByte, Bool.and_eq_true, decide_eq_true_eq, UInt8.le_iff_toNat_le, hc]
  exact range

theorem byte_ne_of_isDigit {c : Char} (h : c.isDigit = true) {b : UInt8}
    (hb : b.toNat < 48 ∨ 57 < b.toNat) : byte c ≠ b := by
  have range := isDigit_iff.mp h
  have hc : (byte c).toNat = c.toNat := toNat_byte (by omega)
  rintro rfl
  omega

theorem isBlankByte_of_isDigit {c : Char} (h : c.isDigit = true) :
    isBlankByte (byte c) = false := by
  simp [isBlankByte, byte_ne_of_isDigit h (b := byte ' ') (by decide),
    byte_ne_of_isDigit h (b := byte '\n') (by decide),
    byte_ne_of_isDigit h (b := byte '\t') (by decide),
    byte_ne_of_isDigit h (b := byte '\r') (by decide)]

/-- The digits of a number that fits are all appended. -/
theorem appendWhole_digits {cs : List Char} (digits : ∀ c ∈ cs, c.isDigit = true) {n : Nat}
    (h : Nat.ofDigitChars 10 cs n ≤ greatest) :
    appendWhole n (cs.map byte) = (Nat.ofDigitChars 10 cs n, 0) := by
  induction cs generalizing n with
  | nil => rfl
  | cons c cs ih =>
    have value : n * 10 + digitOf (byte c) = 10 * n + (c.toNat - '0'.toNat) := by
      rw [digitOf_byte (digits c List.mem_cons_self), Nat.mul_comm]
    rw [Nat.ofDigitChars_cons] at h ⊢
    have fits : 10 * n + (c.toNat - '0'.toNat) ≤ greatest := by
      have grows : Nat.ofDigitChars 10 cs (10 * n + (c.toNat - '0'.toNat)) =
          10 ^ cs.length * (10 * n + (c.toNat - '0'.toNat)) + Nat.ofDigitChars 10 cs 0 :=
        Nat.ofDigitChars_eq_ofDigitChars_zero
      have pos : 1 ≤ 10 ^ cs.length := Nat.one_le_pow _ _ (by decide)
      calc 10 * n + (c.toNat - '0'.toNat)
          = 1 * (10 * n + (c.toNat - '0'.toNat)) := (Nat.one_mul _).symm
        _ ≤ 10 ^ cs.length * (10 * n + (c.toNat - '0'.toNat)) := Nat.mul_le_mul_right _ pos
        _ ≤ greatest := by omega
    rw [List.map_cons, appendWhole, value, if_pos fits,
      ih (fun d hd => digits d (List.mem_cons_of_mem _ hd)) h]

theorem appendWhole_decimal {n : Nat} (h : n ≤ greatest) :
    appendWhole 0 ((decimal n).map byte) = (n, 0) := by
  have value : Nat.ofDigitChars 10 (decimal n) 0 = n := Nat.ofDigitChars_ten_toDigits
  rw [appendWhole_digits (fun _ => isDigit_of_mem_decimal) (by rwa [value]), value]

theorem numberOf_natural {n : Nat} (h : n ≤ greatest) :
    numberOf false ((decimal n).map byte) [] none = some (.integer n) := by
  simp [numberOf, appendWhole_decimal h]

theorem numberOf_negative {n : Nat} (pos : 0 < n) (h : n ≤ 2 ^ 63) :
    numberOf true ((decimal n).map byte) [] none = some (.integer (-n)) := by
  have small : n ≤ greatest := by unfold greatest; omega
  simp only [numberOf, appendWhole_decimal small]
  rw [if_neg (by simp), if_pos ⟨pos, h⟩]

theorem takeWhile_digits (n : Nat) {rest : List UInt8} (h : endsNumber rest) :
    ((decimal n).map byte ++ rest).takeWhile isDigitByte = (decimal n).map byte ∧
      ((decimal n).map byte ++ rest).dropWhile isDigitByte = rest := by
  have digits : ∀ b ∈ (decimal n).map byte, isDigitByte b = true := by
    intro b hb
    obtain ⟨c, hc, rfl⟩ := List.mem_map.mp hb
    exact isDigitByte_byte (isDigit_of_mem_decimal hc)
  rw [List.takeWhile_append_of_pos digits, List.dropWhile_append_of_pos digits]
  cases rest with
  | nil => simp
  | cons b rest => simp [(h b rfl).1]

/-- A decimal is not empty, and it starts with a zero only if it has no other digit. -/
theorem decimal_wellFormed (n : Nat) : (decimal n).map byte ≠ [] ∧
    (((decimal n).map byte).head? = some (byte '0') → ((decimal n).map byte).length = 1) := by
  refine ⟨by simp [decimal_ne_nil], fun zero => ?_⟩
  obtain ⟨c, cs, first⟩ := List.exists_cons_of_ne_nil (decimal_ne_nil n)
  have digit : c.isDigit = true := isDigit_of_mem_decimal (first ▸ List.mem_cons_self)
  have range := isDigit_iff.mp digit
  rw [first, List.map_cons, List.head?_cons, Option.some.injEq] at zero
  have hc : c = '0' := by
    apply Char.toNat_inj.mp
    rw [← toNat_byte (c := c) (by omega), zero]
    rfl
  have hn : n = 0 := eq_zero_of_head_decimal (by rw [first, hc]; rfl)
  rw [hn]
  rfl

/-- A decimal is read as a number up to its end. -/
theorem number?_decimal (n : Nat) (negative : Bool) {rest : List UInt8} (h : endsNumber rest) :
    number? negative ((decimal n).map byte ++ rest) =
      some (.num (numberOf negative ((decimal n).map byte) [] none), rest) := by
  have stands : guard (f := Option) ((decimal n).map byte ≠ [] ∧
      (((decimal n).map byte).head? = some (byte '0') → ((decimal n).map byte).length = 1)) =
        some () := if_pos (decimal_wellFormed n)
  obtain ⟨taken, left⟩ := takeWhile_digits n h
  unfold number?
  simp only [taken, left, stands]
  cases rest with
  | nil => rfl
  | cons b rest =>
    obtain ⟨-, point, small, large⟩ := h b rfl
    simp [point, small, large]

/-! ## First bytes -/

theorem skipBlanks_cons {b : UInt8} (h : isBlankByte b = false) (rest : List UInt8) :
    skipBlanks (b :: rest) = b :: rest := by
  rw [skipBlanks, List.dropWhile_cons_of_neg (by simp [h])]

theorem encode_intText_natural (n : Nat) :
    encode (intText (Int.ofNat n)) = (decimal n).map byte := by
  have ascii : ∀ c ∈ decimal n, c.toNat < 128 := by
    intro c hc
    have range := isDigit_iff.mp (isDigit_of_mem_decimal hc)
    omega
  rw [intText, decimalText, encode_ofList, encodeChars_of_ascii ascii]

theorem encode_intText_negative (n : Nat) :
    encode (intText (Int.negSucc n)) = byte '-' :: (decimal (n + 1)).map byte := by
  rw [intText, encode_append]
  exact congrArg (byte '-' :: ·) (encode_intText_natural (n + 1))

/-- A written document starts with a byte that is no blank and closes no array. -/
theorem encode_render_cons {j : Json} (kept : j.isKept = true) :
    ∃ b bytes, encode j.render = b :: bytes ∧ isBlankByte b = false ∧ b ≠ byte ']' := by
  have digits : ∀ n, ∃ b bytes, (decimal n).map byte = b :: bytes ∧ isBlankByte b = false ∧
      b ≠ byte ']' := by
    intro n
    obtain ⟨c, cs, first⟩ := List.exists_cons_of_ne_nil (decimal_ne_nil n)
    have digit : c.isDigit = true := isDigit_of_mem_decimal (n := n) (first ▸ List.mem_cons_self)
    exact ⟨byte c, cs.map byte, by rw [first]; rfl, isBlankByte_of_isDigit digit,
      byte_ne_of_isDigit digit (by decide)⟩
  cases j with
  | null => exact ⟨byte 'n', _, rfl, by decide, by decide⟩
  | bool b => cases b with
    | true => exact ⟨byte 't', _, rfl, by decide, by decide⟩
    | false => exact ⟨byte 'f', _, rfl, by decide, by decide⟩
  | num n =>
    cases n with
    | fraction x => simp [isKept, Number.isKept] at kept
    | integer n =>
      cases n with
      | ofNat n => rw [render, Number.render, encode_intText_natural]; exact digits n
      | negSucc n =>
        rw [render, Number.render, encode_intText_negative]
        exact ⟨byte '-', _, rfl, by decide, by decide⟩
  | str s => rw [render, encode_quote]; exact ⟨byte '"', _, rfl, by decide, by decide⟩
  | arr items =>
    rw [render, encode_append, encode_append]
    exact ⟨byte '[', _, rfl, by decide, by decide⟩
  | obj fields =>
    rw [render, encode_append, encode_append]
    exact ⟨byte '\x7b', _, rfl, by decide, by decide⟩

/-! ## Values -/

theorem value_digits {n : Nat} {rest : List UInt8} (fits : n ≤ greatest) (ends : endsNumber rest)
    (fuel : Nat) :
    value (fuel + 1) ((decimal n).map byte ++ rest) = (.num (some (.integer n)), some rest) := by
  have taken := number?_decimal n false ends
  obtain ⟨c, cs, first⟩ := List.exists_cons_of_ne_nil (decimal_ne_nil n)
  have digit : c.isDigit = true := isDigit_of_mem_decimal (n := n) (first ▸ List.mem_cons_self)
  have ne : ∀ {b : UInt8}, b.toNat < 48 ∨ 57 < b.toNat → byte c ≠ b := byte_ne_of_isDigit digit
  rw [numberOf_natural fits] at taken
  rw [first, List.map_cons, List.cons_append] at taken ⊢
  rw [value.eq_def]
  simp only [skipBlanks_cons (isBlankByte_of_isDigit digit)]
  rw [if_neg (ne (by decide)), if_neg (ne (by decide)), if_neg (ne (by decide)),
    if_neg (ne (by decide)), if_neg (ne (by decide)), if_neg (ne (by decide)),
    if_neg (ne (by decide)), if_pos (isDigitByte_byte digit), taken]

theorem value_negative {n : Nat} {rest : List UInt8} (pos : 0 < n) (fits : n ≤ 2 ^ 63)
    (ends : endsNumber rest) (fuel : Nat) :
    value (fuel + 1) (byte '-' :: ((decimal n).map byte ++ rest)) =
      (.num (some (.integer (-n))), some rest) := by
  have taken := number?_decimal n true ends
  rw [numberOf_negative pos fits] at taken
  rw [value.eq_def]
  simp only [skipBlanks_cons (show isBlankByte (byte '-') = false by decide)]
  rw [if_neg (by decide), if_neg (by decide), if_neg (by decide), if_neg (by decide),
    if_neg (by decide), if_neg (by decide), if_pos trivial, taken]

theorem value_word {rest : List UInt8} (fuel : Nat) :
    value (fuel + 1) (encode "null" ++ rest) = (.null, some rest) ∧
    value (fuel + 1) (encode "true" ++ rest) = (.bool true, some rest) ∧
    value (fuel + 1) (encode "false" ++ rest) = (.bool false, some rest) := by
  refine ⟨?_, ?_, ?_⟩ <;> rw [value.eq_def] <;> rfl

theorem value_quote {s : String} {fuel : Nat} (rest : List UInt8)
    (enough : (written s.toList).length < fuel) :
    value (fuel + 1) (encode (quote s) ++ rest) = (.str (some s), some rest) := by
  have taken := text?_written (s := s) rest enough
  rw [encode_quote, List.cons_append, List.append_assoc, List.singleton_append, value.eq_def]
  simp only [skipBlanks_cons (show isBlankByte (byte '"') = false by decide)]
  rw [if_neg (by decide), if_neg (by decide), if_neg (by decide), if_pos trivial, taken]

/-! ## Documents -/

theorem encode_intercalate_cons (s t : String) (rest : List String) :
    encode (",".intercalate (s :: t :: rest)) =
      encode s ++ byte ',' :: encode (",".intercalate (t :: rest)) := by
  rw [String.intercalate_cons_cons, encode_append, encode_append]
  simp [encode, encodeChar_of_ascii (c := ',') (by decide)]

theorem endsNumber_cons {b : UInt8} (h : isDigitByte b = false ∧ b ≠ byte '.' ∧ b ≠ byte 'e' ∧
    b ≠ byte 'E') (rest : List UInt8) : endsNumber (b :: rest) := by
  intro x hx
  obtain rfl : b = x := Option.some.inj hx
  exact h

theorem encode_arr (items : List Json) :
    encode (Json.arr items).render =
      byte '[' :: (encode (",".intercalate (renderItems items)) ++ [byte ']']) := by
  rw [render, encode_append, encode_append]
  rfl

theorem encode_obj (fields : List (String × Json)) :
    encode (Json.obj fields).render =
      byte '\x7b' :: (encode (",".intercalate (renderFields fields)) ++ [byte '\x7d']) := by
  rw [render, encode_append, encode_append]
  rfl

theorem encode_field (key : String) (j : Json) :
    encode (renderField (key, j)) =
      byte '"' :: (written key.toList ++ byte '"' :: byte ':' :: encode j.render) := by
  rw [renderField, encode_append, encode_append, encode_quote]
  simp [encode, encodeChar_of_ascii (c := ':') (by decide)]

theorem encode_items_cons {j : Json} (kept : j.isKept = true) (js : List Json) :
    ∃ b bytes, encode (",".intercalate (renderItems (j :: js))) = b :: bytes ∧
      isBlankByte b = false ∧ b ≠ byte ']' := by
  obtain ⟨b, bytes, first, opens⟩ := encode_render_cons kept
  cases js with
  | nil => exact ⟨b, bytes, by simpa [renderItems] using first, opens⟩
  | cons k js =>
    refine ⟨b, bytes ++ byte ',' :: encode (",".intercalate (renderItems (k :: js))), ?_, opens⟩
    rw [renderItems, renderItems, encode_intercalate_cons, first, List.cons_append]

theorem encode_fields_cons (key : String) (j : Json) (fs : List (String × Json)) :
    ∃ bytes, encode (",".intercalate (renderFields ((key, j) :: fs))) = byte '"' :: bytes := by
  cases fs with
  | nil =>
    rw [renderFields, renderFields, String.intercalate_singleton, encode_field]
    exact ⟨_, rfl⟩
  | cons g fs =>
    rw [renderFields, renderFields, encode_intercalate_cons, encode_field, List.cons_append]
    exact ⟨_, rfl⟩

theorem pos_of_render {j : Json} (kept : j.isKept = true) {fuel : Nat}
    (enough : (encode j.render).length ≤ fuel) : ∃ left, fuel = left + 1 := by
  obtain ⟨b, bytes, first, -⟩ := encode_render_cons kept
  rw [first, List.length_cons] at enough
  exact ⟨fuel - 1, by omega⟩

theorem value_integer {n : Int} (kept : (Json.Number.integer n).isKept = true) {rest : List UInt8}
    (ends : endsNumber rest) (fuel : Nat) :
    value (fuel + 1) (encode (intText n) ++ rest) = (.num (some (.integer n)), some rest) := by
  simp only [Number.isKept, Bool.and_eq_true, decide_eq_true_eq] at kept
  cases n with
  | ofNat n =>
    rw [encode_intText_natural]
    exact value_digits (by have := kept.2; unfold greatest; simp at this ⊢; omega) ends fuel
  | negSucc n =>
    rw [encode_intText_negative]
    have fits : n + 1 ≤ 2 ^ 63 := by omega
    exact value_negative (Nat.succ_pos n) fits ends fuel

theorem value_arr_nil (fuel : Nat) (rest : List UInt8) :
    value (fuel + 1) (byte '[' :: byte ']' :: rest) = (.arr [], some rest) := by
  rw [value.eq_def]
  rfl

theorem value_arr_cons {b : UInt8} (blank : isBlankByte b = false) (close : b ≠ byte ']')
    {fuel : Nat} {more : List UInt8} {xs : List Reading} {left : Option (List UInt8)}
    (h : items fuel (b :: more) = (xs, left)) :
    value (fuel + 1) (byte '[' :: b :: more) = (.arr xs, left) := by
  rw [value.eq_def]
  simp only [skipBlanks_cons (show isBlankByte (byte '[') = false by decide),
    skipBlanks_cons blank]
  rw [if_neg (by decide), if_neg (by decide), if_neg (by decide), if_neg (by decide),
    if_pos trivial, if_neg close, h]

theorem items_last {fuel : Nat} {bytes rest : List UInt8} {v : Reading}
    (h : value fuel bytes = (v, some (byte ']' :: rest))) :
    items (fuel + 1) bytes = ([v], some rest) := by
  rw [items.eq_def]
  simp only [h, skipBlanks_cons (show isBlankByte (byte ']') = false by decide)]
  rw [if_pos trivial]

theorem items_next {fuel : Nat} {bytes rest : List UInt8} {v : Reading} {vs : List Reading}
    {left : Option (List UInt8)} (h : value fuel bytes = (v, some (byte ',' :: rest)))
    (more : items fuel rest = (vs, left)) : items (fuel + 1) bytes = (v :: vs, left) := by
  rw [items.eq_def]
  simp only [h, skipBlanks_cons (show isBlankByte (byte ',') = false by decide)]
  rw [if_neg (by decide), if_pos trivial, more]

theorem value_obj_nil (fuel : Nat) (rest : List UInt8) :
    value (fuel + 1) (byte '\x7b' :: byte '\x7d' :: rest) = (.obj [], some rest) := by
  rw [value.eq_def]
  rfl

theorem value_obj_cons {fuel : Nat} {more : List UInt8} {xs : List (Option String × Reading)}
    {left : Option (List UInt8)} (h : fields fuel (byte '"' :: more) = (xs, left)) :
    value (fuel + 1) (byte '\x7b' :: byte '"' :: more) = (.obj xs, left) := by
  rw [value.eq_def]
  simp only [skipBlanks_cons (show isBlankByte (byte '\x7b') = false by decide),
    skipBlanks_cons (show isBlankByte (byte '"') = false by decide)]
  rw [if_neg (by decide), if_neg (by decide), if_neg (by decide), if_neg (by decide),
    if_neg (by decide), if_pos trivial, if_neg (by decide), h]

theorem fields_last {fuel : Nat} {bytes body rest : List UInt8} {key : Option String} {v : Reading}
    (name : text? fuel bytes = some (key, byte ':' :: body))
    (h : value fuel body = (v, some (byte '\x7d' :: rest))) :
    fields (fuel + 1) (byte '"' :: bytes) = ([(key, v)], some rest) := by
  rw [fields.eq_def]
  simp only [skipBlanks_cons (show isBlankByte (byte '"') = false by decide)]
  rw [if_neg (by decide), name]
  simp only [skipBlanks_cons (show isBlankByte (byte ':') = false by decide)]
  rw [if_neg (by decide), h]
  simp only [skipBlanks_cons (show isBlankByte (byte '\x7d') = false by decide)]
  rw [if_pos trivial]

theorem fields_next {fuel : Nat} {bytes body rest : List UInt8} {key : Option String} {v : Reading}
    {vs : List (Option String × Reading)} {left : Option (List UInt8)}
    (name : text? fuel bytes = some (key, byte ':' :: body))
    (h : value fuel body = (v, some (byte ',' :: rest))) (more : fields fuel rest = (vs, left)) :
    fields (fuel + 1) (byte '"' :: bytes) = ((key, v) :: vs, left) := by
  rw [fields.eq_def]
  simp only [skipBlanks_cons (show isBlankByte (byte '"') = false by decide)]
  rw [if_neg (by decide), name]
  simp only [skipBlanks_cons (show isBlankByte (byte ':') = false by decide)]
  rw [if_neg (by decide), h]
  simp only [skipBlanks_cons (show isBlankByte (byte ',') = false by decide)]
  rw [if_neg (by decide), if_pos trivial, more]

theorem endsNumber_close (rest : List UInt8) : endsNumber (byte ']' :: rest) :=
  endsNumber_cons (by decide) rest

theorem endsNumber_comma (rest : List UInt8) : endsNumber (byte ',' :: rest) :=
  endsNumber_cons (by decide) rest

theorem endsNumber_brace (rest : List UInt8) : endsNumber (byte '\x7d' :: rest) :=
  endsNumber_cons (by decide) rest

/-! ## Values, items and fields -/

/-- A written value is read back, with the bytes that follow it. -/
def ReadBack (j : Json) : Prop :=
  j.isKept = true → ∀ {fuel : Nat} {rest : List UInt8}, (encode j.render).length ≤ fuel →
    endsNumber rest → value fuel (encode j.render ++ rest) = (ofJson j, some rest)

/-- Written items are read back up to the bracket. -/
def ItemsReadBack (js : List Json) : Prop :=
  areItemsKept js = true → js ≠ [] → ∀ {fuel : Nat} {rest : List UInt8},
    (encode (",".intercalate (renderItems js))).length < fuel →
    items fuel (encode (",".intercalate (renderItems js)) ++ byte ']' :: rest) =
      (ofItems js, some rest)

/-- Written fields are read back up to the brace. -/
def FieldsReadBack (fs : List (String × Json)) : Prop :=
  areFieldsKept fs = true → fs ≠ [] → ∀ {fuel : Nat} {rest : List UInt8},
    (encode (",".intercalate (renderFields fs))).length < fuel →
    fields fuel (encode (",".intercalate (renderFields fs)) ++ byte '\x7d' :: rest) =
      (ofFields fs, some rest)

theorem readBack_word : ReadBack .null ∧ ReadBack (.bool true) ∧ ReadBack (.bool false) := by
  refine ⟨?_, ?_, ?_⟩
  all_goals
    intro kept fuel rest enough _
    obtain ⟨left, rfl⟩ := pos_of_render kept enough
  · exact (value_word left).1
  · exact (value_word left).2.1
  · exact (value_word left).2.2

theorem readBack_num (n : Json.Number) : ReadBack (.num n) := by
  intro kept fuel rest enough ends
  cases n with
  | integer n =>
    obtain ⟨left, rfl⟩ := pos_of_render kept enough
    exact value_integer kept ends left
  | fraction _ => simp [isKept, Number.isKept] at kept

theorem readBack_str (s : String) : ReadBack (.str s) := by
  intro kept fuel rest enough _
  obtain ⟨left, rfl⟩ := pos_of_render kept enough
  rw [render, encode_quote] at enough
  rw [render]
  exact value_quote rest (by simp at enough; omega)

theorem readBack_arr {js : List Json} (inner : ItemsReadBack js) : ReadBack (.arr js) := by
  intro kept fuel rest enough _
  obtain ⟨left, rfl⟩ := pos_of_render kept enough
  rw [encode_arr] at enough ⊢
  cases js with
  | nil => exact value_arr_nil left rest
  | cons j js =>
    obtain ⟨headKept, -⟩ : j.isKept = true ∧ areItemsKept js = true := by
      simpa [isKept, areItemsKept] using kept
    obtain ⟨b, more, first, blank, close⟩ := encode_items_cons headKept js
    have taken : items left (encode (",".intercalate (renderItems (j :: js))) ++
        byte ']' :: rest) = (ofItems (j :: js), some rest) :=
      inner kept (by simp) (by simp at enough; omega)
    rw [first] at taken ⊢
    simp only [List.cons_append, List.append_assoc, List.nil_append] at taken ⊢
    exact value_arr_cons blank close taken

theorem readBack_obj {fs : List (String × Json)} (inner : FieldsReadBack fs) :
    ReadBack (.obj fs) := by
  intro kept fuel rest enough _
  obtain ⟨left, rfl⟩ := pos_of_render kept enough
  rw [encode_obj] at enough ⊢
  cases fs with
  | nil => exact value_obj_nil left rest
  | cons f fs =>
    obtain ⟨more, first⟩ := encode_fields_cons f.1 f.2 fs
    have taken : fields left (encode (",".intercalate (renderFields (f :: fs))) ++
        byte '\x7d' :: rest) = (ofFields (f :: fs), some rest) :=
      inner kept (by simp) (by simp at enough; omega)
    rw [first] at taken ⊢
    simp only [List.cons_append, List.append_assoc, List.nil_append] at taken ⊢
    exact value_obj_cons taken

theorem itemsReadBack_cons {j : Json} {js : List Json} (first : ReadBack j)
    (more : ItemsReadBack js) : ItemsReadBack (j :: js) := by
  intro kept nonempty fuel rest enough
  obtain ⟨headKept, tailKept⟩ : j.isKept = true ∧ areItemsKept js = true := by
    simpa [areItemsKept] using kept
  obtain ⟨left, rfl⟩ : ∃ left, fuel = left + 1 := ⟨fuel - 1, by omega⟩
  cases js with
  | nil =>
    rw [renderItems, renderItems, String.intercalate_singleton] at enough ⊢
    exact items_last (first headKept (by omega) (endsNumber_close rest))
  | cons k js =>
    rw [renderItems, renderItems, encode_intercalate_cons] at enough ⊢
    rw [List.length_append, List.length_cons] at enough
    rw [List.append_assoc, List.cons_append]
    exact items_next (first headKept (by omega) (endsNumber_comma _))
      (more tailKept (by simp) (by rw [renderItems]; omega))

theorem fieldsReadBack_cons {key : String} {j : Json} {fs : List (String × Json)}
    (first : ReadBack j) (more : FieldsReadBack fs) : FieldsReadBack ((key, j) :: fs) := by
  intro kept nonempty fuel rest enough
  obtain ⟨headKept, tailKept⟩ : j.isKept = true ∧ areFieldsKept fs = true := by
    simpa [areFieldsKept, isFieldKept] using kept
  obtain ⟨left, rfl⟩ : ∃ left, fuel = left + 1 := ⟨fuel - 1, by omega⟩
  cases fs with
  | nil =>
    rw [renderFields, renderFields, String.intercalate_singleton, encode_field] at enough ⊢
    simp only [List.length_append, List.length_cons, List.cons_append, List.append_assoc]
      at enough ⊢
    exact fields_last (text?_written _ (by omega))
      (first headKept (show (encode j.render).length ≤ left by omega) (endsNumber_brace rest))
  | cons g fs =>
    rw [renderFields, renderFields, encode_intercalate_cons, encode_field] at enough ⊢
    simp only [List.length_append, List.length_cons, List.cons_append, List.append_assoc]
      at enough ⊢
    exact fields_next (text?_written _ (by omega))
      (first headKept (show (encode j.render).length ≤ left by omega) (endsNumber_comma _))
      (more tailKept (by simp) (by rw [renderFields]; omega))

mutual

/-- **Every written value is read back.** -/
theorem readBack : ∀ j : Json, ReadBack j
  | .null => readBack_word.1
  | .bool true => readBack_word.2.1
  | .bool false => readBack_word.2.2
  | .num n => readBack_num n
  | .str s => readBack_str s
  | .arr js => readBack_arr (itemsReadBack js)
  | .obj fs => readBack_obj (fieldsReadBack fs)
termination_by structural j => j

theorem itemsReadBack : ∀ js : List Json, ItemsReadBack js
  | [] => fun _ nonempty => absurd rfl nonempty
  | j :: js => itemsReadBack_cons (readBack j) (itemsReadBack js)
termination_by structural js => js

theorem fieldsReadBack : ∀ fs : List (String × Json), FieldsReadBack fs
  | [] => fun _ nonempty => absurd rfl nonempty
  | f :: fs => fieldsReadBack_cons (fieldReadBack f) (fieldsReadBack fs)
termination_by structural fs => fs

theorem fieldReadBack : ∀ f : String × Json, ReadBack f.2
  | (_, j) => readBack j
termination_by structural f => f

end

/-- **A written document is read back to its end.** -/
theorem ofBytes_render {j : Json} (kept : j.isKept = true) :
    ofBytes (encode j.render) = (ofJson j, true) := by
  have taken : value (2 * (encode j.render).length + 2) (encode j.render ++ []) =
      (ofJson j, some []) := readBack j kept (by omega) (by simp [endsNumber])
  rw [List.append_nil] at taken
  rw [ofBytes, taken]
  rfl

end Reading

end TransferLedger.Json
