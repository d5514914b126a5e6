/-
# TransferLedger.Text.Percent -- percent escapes

Addresses of resources carry bytes as `%` and two hex digits. Decoding takes every such group for
its byte and leaves all else as it is; encoding escapes the bytes of the characters that a part of
an address must not hold.
-/

import TransferLedger.Text.Ascii
import TransferLedger.Text.Utf8

namespace TransferLedger.Text

/-- The value of a hex digit given as a byte. -/
def hexByte? (b : UInt8) : Option Nat := hexValue? (Char.ofNat b.toNat)

/-- The bytes with each escape in place of its byte. -/
def percentDecode : List UInt8 → List UInt8
  | [] => []
  | [a] => [a]
  | [a, b] => [a, b]
  | a :: b :: c :: rest =>
    match a == 37, hexByte? b, hexByte? c with
    | true, some high, some low => UInt8.ofNat (16 * high + low) :: percentDecode rest
    | _, _, _ => a :: percentDecode (b :: c :: rest)

/-- The escape of a byte. -/
def percentByte (b : UInt8) : List Char :=
  ['%', (hexDigit (b.toNat / 16)).toUpper, (hexDigit (b.toNat % 16)).toUpper]

/-- A text with the bytes of some characters escaped. -/
def percentEncode (escaped : Char → Bool) (cs : List Char) : List Char :=
  cs.flatMap fun c => if escaped c then (String.utf8EncodeChar c).flatMap percentByte else [c]

end TransferLedger.Text
