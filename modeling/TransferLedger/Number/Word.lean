/-
# TransferLedger.Number.Word -- the 256-bit words of the chain

Balances, topics and data words are numbers below 2^256. A word is read from hex in two ways: a
*scalar* is what people and logs write, with or without a mark, with any padding and with blanks
around it; a *run* of digits is what node answers hold, where only the count of digits bounds the
value. Blanks are the characters with the `White_Space` property: six controls, the space, and the
wider separators.
-/

import TransferLedger.Number.Digits
import TransferLedger.Text.Ascii

namespace TransferLedger.Text

/-! ## Blanks -/

/-- The characters with the `White_Space` property. -/
def isBlank (c : Char) : Bool :=
  let n := c.toNat
  (0x09 ≤ n && n ≤ 0x0D) || n == 0x20 || n == 0x85 || n == 0xA0 || n == 0x1680 ||
    (0x2000 ≤ n && n ≤ 0x200A) || n == 0x2028 || n == 0x2029 || n == 0x202F || n == 0x205F ||
    n == 0x3000

/-- The text without blanks at either end. -/
def trimBlanks (cs : List Char) : List Char :=
  ((cs.dropWhile isBlank).reverse.dropWhile isBlank).reverse

theorem isBlank_of_isWhitespace {c : Char} (h : c.isWhitespace = true) : isBlank c = true := by
  simp only [Char.isWhitespace, Bool.or_eq_true, decide_eq_true_eq] at h
  rcases h with ((rfl | rfl) | rfl) | rfl <;> decide

end TransferLedger.Text

namespace TransferLedger

open TransferLedger.Text TransferLedger.Number

/-! ## Words -/

/-- A 256-bit word. -/
abbrev Word := BitVec 256

namespace Word

/-- The word of a number that fits in 256 bits. -/
def ofNat? (n : Nat) : Option Word := if h : n < 2 ^ 256 then some (BitVec.ofNatLT n h) else none

/-- The word that decimal text denotes; the empty text denotes zero. -/
def ofDecimal? (s : String) : Option Word := (decimalNat? s.toList).bind ofNat?

/-- A word in decimal, without leading zeros. -/
def toDecimal (w : Word) : String := decimalText w.toNat

/-- **A hex scalar:** an optional `0x` or `0X` and at least one hex digit, between blanks. Leading
zeros do not count towards the size. -/
def ofScalar? (s : String) : Option Word :=
  match dropHexMark (trimBlanks s.toList) with
  | [] => none
  | digits => (hexNat? digits).bind ofNat?

/-- A run of at most 64 hex digits; the empty run denotes zero. -/
def ofHexRun? (digits : List Char) : Option Word :=
  if digits.length ≤ 64 then (hexNat? digits).bind ofNat? else none

theorem toNat_of_ofNat? {n : Nat} {w : Word} (h : ofNat? n = some w) : w.toNat = n := by
  unfold ofNat? at h
  split at h
  · cases h
    simp
  · cases h

theorem ofNat?_toNat (w : Word) : ofNat? w.toNat = some w := by
  simp only [ofNat?, w.isLt, ↓reduceDIte, Option.some.injEq]
  exact BitVec.eq_of_toNat_eq (by simp)

theorem ofNat?_eq_none_iff {n : Nat} : ofNat? n = none ↔ 2 ^ 256 ≤ n := by
  simp [ofNat?]

end Word

end TransferLedger
