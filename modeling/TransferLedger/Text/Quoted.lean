/-
# TransferLedger.Text.Quoted -- text shown in messages

A text that a message quotes stands between double quotes. Quotes, backslashes and the common
controls have short escapes, and every other character that cannot be shown is given by its number
in hex. Characters without a shape, fillers that are drawn as nothing, and marks that attach to the
character before them cannot be told apart when shown.
-/

import TransferLedger.Text.Graphic
import TransferLedger.Text.Mark

namespace TransferLedger.Text

/-! ## Characters that are shown as themselves -/

/-- Whether a letter only fills a place and is drawn as nothing. -/
def isFiller (c : Char) : Bool := [0x115F, 0x1160, 0x3164, 0xFFA0].contains c.toNat

/-- Whether a character is shown as itself. -/
def isPrintable (c : Char) : Bool := isGraphic c && !isFiller c && !extendsUnit c

theorem isPrintable_of_isAlphanum {c : Char} (h : c.isAlphanum = true) : isPrintable c = true := by
  have all : ∀ n ∈ List.range 128,
      (Char.ofNat n).isAlphanum = true → isPrintable (Char.ofNat n) = true := by decide +kernel
  simpa [h] using all c.toNat (List.mem_range.2 (toNat_lt_of_isAlphanum h))

/-! ## Texts -/

/-- How one character is shown between quotes. -/
def showChar (c : Char) : List Char :=
  if c = '"' then ['\\', '"']
  else if c = '\\' then ['\\', '\\']
  else if c = '\n' then ['\\', 'n']
  else if c = '\r' then ['\\', 'r']
  else if c = '\t' then ['\\', 't']
  else if c.toNat = 0 then ['\\', '0']
  else if isPrintable c then [c]
  else ['\\', 'u', '\x7b'] ++ Nat.toDigits 16 c.toNat ++ ['\x7d']

/-- A text between double quotes. -/
def shown (s : String) : String := String.ofList ('"' :: s.toList.flatMap showChar ++ ['"'])

end TransferLedger.Text
