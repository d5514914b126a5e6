/-
# TransferLedger.Text.Folding -- one spelling for a letter

Names are compared with letters of either case, of any shape and of any width as one. Folding gives
each character its plain spelling and brings the text to its normal form; characters that only guide
how a text is laid out count for nothing. Some characters have no plain spelling that a name could
hold: those without a shape, and signs that stand for a blank, for a stop with something before it,
or for the arrangement of others.
-/

import TransferLedger.Text.Folding.Spellings
import TransferLedger.Text.Graphic
import TransferLedger.Text.Joining
import TransferLedger.Text.Normal

namespace TransferLedger.Text

/-- Where runs of characters that count for nothing start and end, in turn. -/
def ignoredRuns : Array Nat :=
  #[0xAD, 0xAE, 0x34F, 0x350, 0x115F, 0x1161, 0x17B4, 0x17B6, 0x180B, 0x1810, 0x200B, 0x200C,
    0x2060, 0x2065, 0x206A, 0x2070, 0x3164, 0x3165, 0xFE00, 0xFE10, 0xFEFF, 0xFF00, 0xFFA0, 0xFFA1,
    0x1BCA0, 0x1BCA4, 0x1D173, 0x1D17B, 0xE0100, 0xE01F0]

/-- Where runs of graphic characters without a plain spelling start and end, in turn. -/
def unspelledRuns : Array Nat :=
  #[0xA8, 0xA9, 0xAF, 0xB0, 0xB4, 0xB5, 0xB8, 0xB9, 0x2D8, 0x2DE, 0x37A, 0x37B, 0x384, 0x386,
    0x1FBD, 0x1FBE, 0x1FBF, 0x1FC2, 0x1FCD, 0x1FD0, 0x1FDD, 0x1FE0, 0x1FED, 0x1FEF, 0x1FFD, 0x2010,
    0x2017, 0x2018, 0x2024, 0x2027, 0x203E, 0x203F, 0x2488, 0x249C, 0x2FF0, 0x3001, 0x309B, 0x309D,
    0x31EF, 0x31F0, 0x33C2, 0x33C3, 0x33C7, 0x33C8, 0x33D8, 0x33D9, 0xFC5E, 0xFC64, 0xFDFA, 0xFDFC,
    0xFE12, 0xFE13, 0xFE19, 0xFE20, 0xFE30, 0xFE31, 0xFE49, 0xFE4D, 0xFE52, 0xFE54, 0xFE70, 0xFE71,
    0xFE72, 0xFE73, 0xFE74, 0xFE77, 0xFE78, 0xFE79, 0xFE7A, 0xFE7B, 0xFE7C, 0xFE7D, 0xFE7E, 0xFE7F,
    0xFFE3, 0xFFE4, 0xFFFC, 0x10000, 0x1F100, 0x1F101]

/-- Whether a character counts for nothing in a name. -/
def isIgnored (c : Char) : Bool := inRuns ignoredRuns c

/-- Whether a character has a plain spelling. -/
def isFoldable (c : Char) : Bool :=
  isIgnored c || isJoiner c || (isGraphic c && !inRuns unspelledRuns c)

/-- Whether a character belongs to an alphabet that shifts as a whole. -/
def Shift.covers (s : Shift) (c : Char) : Bool :=
  s.first ≤ c.toNat && c.toNat ≤ s.last && (c.toNat - s.first) % s.step == 0

/-- The spelling of a character of the alphabet. -/
def Shift.apply (s : Shift) (c : Char) : Char := Char.ofNat (s.image + (c.toNat - s.first))

/-- The plain spelling of a character that stands for no others. -/
def spelling (c : Char) : List Char :=
  match shifts.find? (·.covers c) with
  | some shift => [shift.apply c]
  | none => (spellings.get? c).getD [c]

/-- The plain spelling of a character. -/
def foldChar (c : Char) : List Char :=
  if isIgnored c then [] else (apart mostLevels c).flatMap spelling

theorem foldChar_of_lt {c : Char} (h : c.toNat < 128) : foldChar c = [c.toLower] := by
  have all : ∀ n ∈ List.range 128, foldChar (Char.ofNat n) = [(Char.ofNat n).toLower] := by
    decide +kernel
  simpa using all c.toNat (List.mem_range.2 h)

/-- **A text with one spelling for each letter.** -/
def fold (cs : List Char) : List Char := normalForm (cs.flatMap foldChar)

end TransferLedger.Text
