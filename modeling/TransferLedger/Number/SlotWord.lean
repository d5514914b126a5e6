/-
# TransferLedger.Number.SlotWord -- words as rows keep them

A row keeps each argument as a decimal magnitude: the exponent of its leading digit and its limbs in
base 10^14, most significant first, without trailing zero limbs. Together with the slot of the
argument this makes equal values equal records, however they were spelled.
-/

import TransferLedger.Number.Word

namespace TransferLedger

open TransferLedger.Number

/-- **An encoded word at an argument slot.** -/
structure SlotWord where
  /-- The decimal exponent of the leading digit. -/
  exponent : UInt32
  /-- Digits in base 10^14, most significant first. -/
  limbs : List UInt64
  /-- The slot of the argument. -/
  slot : UInt64
deriving DecidableEq, Repr

namespace SlotWord

/-- Decimal digits in one limb. -/
def limbWidth : Nat := 14

/-- The base of the limbs. -/
def limbBase : Nat := 10 ^ limbWidth

/-- The limbs of a number, most significant first. Zero limbs at the end are dropped, as the
exponent says how many there were, and zero itself is one zero limb. -/
def limbsOf (n : Nat) : List Nat :=
  match ((littleDigits limbBase n).dropWhile (· == 0)).reverse with
  | [] => [0]
  | limbs => limbs

/-- The encoding of a word at a slot. -/
def ofWord (w : Word) (slot : UInt64) : SlotWord where
  exponent := UInt32.ofNat (decimalWidth w.toNat - 1)
  limbs := (limbsOf w.toNat).map UInt64.ofNat
  slot := slot

/-! ## Reading back -/

/-- The number written by limbs in decimal one after the other, the first as it is and the others
padded to fourteen digits, together with how many digits that takes. -/
def joined : List UInt64 → Nat × Nat
  | [] => (0, 0)
  | first :: rest =>
    rest.foldl
      (fun (value, width) limb =>
        let w := max limbWidth (decimalWidth limb.toNat)
        (value * 10 ^ w + limb.toNat, width + w))
      (first.toNat, decimalWidth first.toNat)

/-- **The word that an encoding denotes:** its limbs in decimal, with zeros after them up to the
digits that the exponent asks for. There is none if that does not fit in 256 bits; a non-zero number
followed by 78 zeros never does. -/
def toWord? (a : SlotWord) : Option Word :=
  let (value, width) := joined a.limbs
  let zeros := a.exponent.toNat + 1 - width
  if value = 0 then some 0
  else if 78 ≤ zeros then none
  else Word.ofNat? (value * 10 ^ zeros)

end SlotWord

end TransferLedger
