/-
# TransferLedger.Chain.Token -- reading a token contract

A token answers three read-only calls: the balance of an owner, its symbol, and its decimals. A call
is the selector of the function and its arguments as words, in hex. The decimals are advice only, so
where they cannot be read the usual eighteen stand in.
-/

import TransferLedger.Chain.Inquiry
import TransferLedger.Chain.Symbol

namespace TransferLedger

open TransferLedger.Text TransferLedger.Number

/-! ## Hex -/

/-- The bytes of pairs of hex digits. -/
def hexPairs? : List Char → Option (List UInt8)
  | [] => some []
  | [_] => none
  | a :: b :: rest => do
    let high ← hexValue? a
    let low ← hexValue? b
    let bytes ← hexPairs? rest
    return UInt8.ofNat (16 * high + low) :: bytes

/-- The bytes of a hex text with an optional mark. -/
def hexBytes? (text : String) : Option (List UInt8) := hexPairs? (dropHexMark text.toList)

/-- The two hex digits of a byte. -/
def hexPair (b : UInt8) : List Char := [hexDigit (b.toNat / 16), hexDigit (b.toNat % 16)]

/-! ## Calls -/

/-- A function of a token contract. -/
inductive TokenCall where
  /-- The balance of an owner of twenty bytes. -/
  | balanceOf (owner : List UInt8)
  | symbol
  | decimals
deriving DecidableEq, Repr

namespace TokenCall

/-- The signature of a function. -/
def signature : TokenCall → String
  | balanceOf _ => "balanceOf(address)"
  | symbol => "symbol()"
  | decimals => "decimals()"

/-- The selector of a function. -/
def selector : TokenCall → String
  | balanceOf _ => "0x70a08231"
  | symbol => "0x95d89b41"
  | decimals => "0x313ce567"

/-- The data of a call: an owner is a word with twelve zero bytes in front. -/
def data : TokenCall → String
  | balanceOf owner =>
    "0x70a08231" ++ String.ofList ((List.replicate 12 0 ++ owner).flatMap hexPair)
  | call => call.selector

end TokenCall

/-- Bytes in an address. -/
def addressBytes : Nat := 20

/-- The bytes of an address in hex. -/
def owner? (address : String) : Option (List UInt8) :=
  (hexBytes? address).filter (·.length == addressBytes)

/-- The decimals of a token that does not tell them. -/
def usualDecimals : String := "18"

namespace Chain

/-- The bytes that a token returns for a call. -/
def askToken (chain : Chain) (token : String) (call : TokenCall) : Inquiry (List UInt8) := do
  let result ← (chain.askCall token call.data).within (call.signature ++ " failed on " ++ token)
  match hexBytes? result with
  | some bytes => return bytes
  | none => .ofExcept (.error ⟨[call.signature ++ " result from " ++ token ++ " is not hex"], .hex⟩)

/-- **The balance of an owner.** -/
def tokenBalance (chain : Chain) (token owner : String) : Inquiry Word := do
  match owner? owner with
  | none => .ofExcept (.error ⟨["Invalid address " ++ owner], .hex⟩)
  | some bytes =>
    let result ← chain.askToken token (.balanceOf bytes)
    match returnedNumber? result with
    | some n => return BitVec.ofNat 256 n
    | none => .ofExcept (.error ⟨["Invalid balanceOf result from " ++ token], .abi⟩)

/-- **The symbol of a token.** -/
def tokenSymbol (chain : Chain) (token : String) : Inquiry String := do
  let result ← chain.askToken token .symbol
  (Inquiry.ofExcept (symbolOf result)).within ("Invalid symbol result from " ++ token)

/-- **The decimals of a token,** from the low byte of the word; any failure gives the usual ones. -/
def tokenDecimals (chain : Chain) (token : String) : Inquiry String :=
  let reading := chain.askToken token .decimals
  ⟨reading.asked,
    match reading.answer.toOption.bind returnedNumber? with
    | some n => .ok (decimalText (n % 256))
    | none => .ok usualDecimals⟩

end Chain

end TransferLedger
