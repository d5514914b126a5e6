/-
# TransferLedger.Proofs.Chain.Token -- balances in what contracts return

The balance of an owner is asked for by one call, whose data are the selector of the function and the
address as a word. What a contract returns is hex text, and the balance is the number of its first 64
digits, whatever follows them. So a balance that was read stands in the answer that the chain gave to
this call.
-/

import TransferLedger.Chain.Token
import TransferLedger.Proofs.Chain.Symbol
import TransferLedger.Proofs.Number.Scalar
import TransferLedger.Proofs.Reconcile.Reading

namespace TransferLedger

open TransferLedger.Text TransferLedger.Number

/-! ## Questions and answers -/

/-- **The data of the call that asks for a balance:** the selector of `balanceOf(address)`, twelve zero
bytes, and the digits of the address. -/
def balanceQuestion (address : String) : String :=
  "0x70a08231" ++ "000000000000000000000000" ++ String.ofList (address.toList.drop 2)

/-- **A text that returns a number:** after a mark or none it starts with 64 hex digits that denote the
number. -/
def Returns (text : String) (n : Nat) : Prop :=
  ∃ mark digits rest : List Char, text.toList = mark ++ (digits ++ rest) ∧ mark ∈ hexMarks ∧
    digits.length = 64 ∧ DigitsDenote digits n

/-! ## Pairs of digits -/

/-- The digit of a value is the character that has it, in lower case. -/
theorem hexDigit_of_hexValue? {c : Char} {v : Nat} (h : hexValue? c = some v) :
    hexDigit v = c.toLower := by
  have all : (hexValue? c).all fun v => hexDigit v == c.toLower := by
    refine char_cases (p := fun c => (hexValue? c).all fun v => hexDigit v == c.toLower)
      (by decide) (fun c large _ => ?_) c
    rw [hexValue?_of_le large]
    rfl
  rw [h] at all
  exact eq_of_beq all

/-- **What pairs of digits are made of:** the first digits are a pair, whose values are those of the two
halves of the first byte. -/
theorem hexPairs?_cons_eq_some {ds : List Char} {b : UInt8} {bytes : List UInt8}
    (h : hexPairs? ds = some (b :: bytes)) :
    ∃ c d rest, ds = c :: d :: rest ∧ hexPairs? rest = some bytes ∧
      hexValue? c = some (b.toNat / 16) ∧ hexValue? d = some (b.toNat % 16) := by
  match ds, h with
  | c :: d :: rest, h =>
    obtain ⟨high, first, h⟩ := Option.bind_eq_some_iff.mp h
    obtain ⟨low, second, h⟩ := Option.bind_eq_some_iff.mp h
    obtain ⟨more, others, h⟩ := Option.bind_eq_some_iff.mp h
    obtain ⟨rfl, rfl⟩ := List.cons.inj (Option.some.inj h)
    have upper : high < 16 := (of_hexValue? first).1
    have lower : low < 16 := (of_hexValue? second).1
    have number : (UInt8.ofNat (16 * high + low)).toNat = 16 * high + low :=
      Utf8.toNat_ofNat (by omega)
    refine ⟨c, d, rest, rfl, others, ?_, ?_⟩
    · rw [number, first]
      exact congrArg some (by omega)
    · rw [number, second]
      exact congrArg some (by omega)

/-- **Bytes are written with the digits that they were read from,** in lower case. -/
theorem flatMap_hexPair {ds : List Char} {bytes : List UInt8} (h : hexPairs? ds = some bytes) :
    bytes.flatMap hexPair = ds.map Char.toLower := by
  induction bytes generalizing ds with
  | nil =>
    match ds, h with
    | [], _ => rfl
    | c :: d :: rest, h =>
      obtain ⟨high, -, h⟩ := Option.bind_eq_some_iff.mp h
      obtain ⟨low, -, h⟩ := Option.bind_eq_some_iff.mp h
      obtain ⟨more, -, h⟩ := Option.bind_eq_some_iff.mp h
      cases h
  | cons b bytes ih =>
    obtain ⟨c, d, rest, rfl, others, first, second⟩ := hexPairs?_cons_eq_some h
    rw [List.flatMap_cons, ih others, hexPair, hexDigit_of_hexValue? first,
      hexDigit_of_hexValue? second]
    rfl

/-- **The number of some bytes is that of as many pairs of digits.** -/
theorem hexNat?_take {ds : List Char} {bytes : List UInt8} (h : hexPairs? ds = some bytes)
    {count : Nat} (enough : count ≤ bytes.length) :
    (ds.take (2 * count)).length = 2 * count ∧
      hexNat? (ds.take (2 * count)) = some (bigEndian (bytes.take count)) := by
  -- by induction on the bytes, from any number that was read before them
  suffices go : ∀ m, (ds.take (2 * count)).length = 2 * count ∧
      (ds.take (2 * count)).foldlM (fun n c => (hexValue? c).map (16 * n + ·)) m =
        some ((bytes.take count).foldl (fun n b => 256 * n + b.toNat) m) from go 0
  induction count generalizing ds bytes with
  | zero => exact fun m => ⟨rfl, rfl⟩
  | succ count ih =>
    intro m
    cases bytes with
    | nil => exact absurd enough (Nat.not_succ_le_zero count)
    | cons b bytes =>
      obtain ⟨c, d, rest, rfl, others, first, second⟩ := hexPairs?_cons_eq_some h
      have pair : 16 * (16 * m + b.toNat / 16) + b.toNat % 16 = 256 * m + b.toNat := by omega
      obtain ⟨length, value⟩ := ih others (Nat.le_of_succ_le_succ enough) (256 * m + b.toNat)
      have two : (c :: d :: rest).take (2 * (count + 1)) = c :: d :: rest.take (2 * count) := rfl
      rw [two]
      refine ⟨by simp [length]; omega, ?_⟩
      rw [List.foldlM_cons, first, Option.map_some, Option.bind_eq_bind, Option.bind_some,
        List.foldlM_cons, second, Option.map_some, Option.bind_eq_bind, Option.bind_some, pair, value]
      rfl

/-! ## Balances -/

variable {chain : Chain} {token address : String} {digits : List Char}

/-- The data of the call for a balance are those of the question, for an address in lower case. -/
theorem data_balanceOf {bytes : List UInt8} (low : lower address = address)
    (shape : address.toList = '0' :: 'x' :: digits) (read : hexPairs? digits = some bytes) :
    (TokenCall.balanceOf bytes).data = balanceQuestion address := by
  have same : digits.map Char.toLower = digits := by
    have whole : (lower address).toList = address.toList := by rw [low]
    rw [toList_lower, shape] at whole
    exact (List.cons.inj (List.cons.inj whole).2).2
  have zeros : (List.replicate 12 (0 : UInt8)).flatMap hexPair =
      "000000000000000000000000".toList := by decide
  rw [TokenCall.data, List.flatMap_append, flatMap_hexPair read, same, zeros, balanceQuestion, shape,
    String.ofList_append, String.ofList_toList, String.append_assoc]
  rfl

/-- **The number of the first word** is denoted by the first 64 digits. -/
theorem returns_of_returnedNumber? {text : String} {bytes : List UInt8} {n : Nat}
    (read : hexBytes? text = some bytes) (h : returnedNumber? bytes = some n) : Returns text n := by
  rw [returnedNumber?, wordAt?, Option.ite_none_right_eq_some, List.drop_zero] at h
  obtain ⟨enough, number⟩ := h
  rw [Nat.zero_add] at enough
  obtain ⟨mark, marked, split⟩ := exists_hexMark text.toList
  obtain ⟨length, value⟩ := hexNat?_take read enough
  rw [number] at value
  refine ⟨mark, _, (dropHexMark text.toList).drop (2 * wordBytes), ?_, marked, length,
    hexNat?_eq_some_iff.mp value⟩
  rw [List.take_append_drop]
  exact split

/-- A number is below the bound that its digits give. -/
theorem Returns.lt {text : String} {n : Nat} (h : Returns text n) : n < 2 ^ 256 := by
  obtain ⟨mark, digits, rest, -, -, count, denote⟩ := h
  obtain ⟨m, small, value⟩ := hexNat?_of_digits denote.hex
  obtain rfl : m = n := Option.some.inj (value.symm.trans (hexNat?_eq_some_iff.mpr denote))
  rw [count] at small
  exact Nat.lt_of_lt_of_le small (by decide)

/-- **A balance that was read was returned** for the call that asks for it. -/
theorem returns_of_tokenBalance {v : Word} (low : lower address = address)
    (shape : address.toList = '0' :: 'x' :: digits)
    (h : (chain.tokenBalance token address).answer = .ok v) :
    ∃ text, chain.call token (balanceQuestion address) = .ok text ∧ Returns text v.toNat := by
  have owner : hexBytes? address = hexPairs? digits := by rw [hexBytes?, shape]; rfl
  unfold Chain.tokenBalance at h
  split at h
  case h_1 => cases h
  case h_2 bytes found =>
    obtain ⟨read, -⟩ := Option.filter_eq_some_iff.mp found
    rw [owner] at read
    obtain ⟨result, asked, h⟩ := Inquiry.answer_bind.mp h
    obtain ⟨text, answered, asked⟩ := Inquiry.answer_bind.mp asked
    have told : chain.call token (TokenCall.balanceOf bytes).data = .ok text :=
      Fallible.mapError_eq_ok.mp (Fallible.mapError_eq_ok.mp answered)
    rw [data_balanceOf low shape read] at told
    -- The answer was hex, and its first word is the balance.
    split at asked
    case h_2 => cases asked
    case h_1 returned hex =>
      obtain rfl := Inquiry.answer_pure.mp asked
      split at h
      case h_2 => cases h
      case h_1 n first =>
        obtain rfl := Inquiry.answer_pure.mp h
        have number : Returns text n := returns_of_returnedNumber? hex first
        rw [BitVec.toNat_ofNat, Nat.mod_eq_of_lt number.lt]
        exact ⟨text, told, number⟩

end TransferLedger
