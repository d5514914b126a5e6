/-
# TransferLedger.Chain.Symbol -- what contracts return

A contract returns words of 32 bytes. A number is one word. A text is an offset word that points at
a length word with the bytes behind it; offset and length have to stay within what was returned,
while padding and whatever else was returned are not looked at. Contracts older than this form
return their symbol as one word, padded with zero bytes.
-/

import TransferLedger.Failure
import TransferLedger.Number.Word
import TransferLedger.Text.Utf8

namespace TransferLedger

open TransferLedger.Text TransferLedger.Number

/-- Bytes in a word. -/
def wordBytes : Nat := 32

/-- The number of some bytes, most significant first. -/
def bigEndian (bytes : List UInt8) : Nat := bytes.foldl (fun n b => 256 * n + b.toNat) 0

/-- The number of the word at an offset, if it lies within the bytes. -/
def wordAt? (bytes : List UInt8) (offset : Nat) : Option Nat :=
  if offset + wordBytes ≤ bytes.length then
    some (bigEndian ((bytes.drop offset).take wordBytes))
  else none

/-- The number that a contract returned, whatever follows it. -/
def returnedNumber? (bytes : List UInt8) : Option Nat := wordAt? bytes 0

/-- The bytes of the text that a contract returned. -/
def returnedBytes? (bytes : List UInt8) : Option (List UInt8) := do
  let offset ← wordAt? bytes 0
  let length ← wordAt? bytes offset
  if offset + wordBytes + length ≤ bytes.length then
    return (bytes.drop (offset + wordBytes)).take length
  else none

/-- **The symbol that a contract returned.** -/
def symbolOf (bytes : List UInt8) : Except Failure String :=
  if bytes.length = wordBytes then
    match Utf8.decode? (bytes.takeWhile (· != 0)) with
    | some s => .ok s
    | none => .error ⟨["bytes32 symbol is not UTF-8"], .utf8⟩
  else if bytes.length < wordBytes then
    .error (.of (.other
      ("Expected at least one word, got " ++ decimalText bytes.length ++ " bytes")))
  else
    match returnedBytes? bytes with
    | some text => .ok (Utf8.decodeLossy text)
    | none => .error ⟨["Not an ABI string"], .abi⟩

end TransferLedger
