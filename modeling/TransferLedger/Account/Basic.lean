/-
# TransferLedger.Account.Basic -- accounts and their balances

An account has a native balance and the tokens it holds, all in decimal text. A refresh brings the
native balance and some token balances: each refreshed token leaves its old place, whatever the
letter case of its address, and goes to the end of the list unless it is zero.
-/

import TransferLedger.Json.Decode
import TransferLedger.Number.Word
import TransferLedger.Text.Ascii

namespace TransferLedger

open TransferLedger.Text

/-- The balance of one token. -/
structure TokenBalance where
  symbol : String
  decimals : String
  address : String
  balance : String
deriving DecidableEq, Repr

/-- Whether the balance is written as a number that is zero; the empty text is. -/
def TokenBalance.isZero (t : TokenBalance) : Bool := Word.ofDecimal? t.balance == some 0

/-- **What a refresh brings.** -/
structure Balances where
  balance : String
  tokens : List TokenBalance
deriving DecidableEq, Repr

/-- **An account.** -/
structure Account where
  address : String
  balance : String
  tokens : List TokenBalance
  isActive : Bool
  /-- When it was last refreshed, in seconds. -/
  updatedAt : Option Int64
deriving DecidableEq, Repr

namespace Account

/-- A new account without any balance. -/
def register (address : String) : Account := ⟨lower address, "0", [], true, none⟩

/-- The held tokens with one refreshed. -/
def refreshToken (held : List TokenBalance) (token : TokenBalance) : List TokenBalance :=
  let others := held.filter fun t => !sameIgnoringCase t.address token.address
  if token.isZero then others else others ++ [token]

/-- The account refreshed at a time. -/
def merge (account : Account) (fresh : Balances) (now : Int64) : Account :=
  { account with
    balance := fresh.balance
    tokens := fresh.tokens.foldl refreshToken account.tokens
    updatedAt := some now }

end Account

/-! ## Documents -/

/-- A token balance as a document. -/
def TokenBalance.toJson (t : TokenBalance) : Json :=
  .object [("symbol", .str t.symbol), ("decimals", .str t.decimals), ("address", .str t.address),
    ("balance", .str t.balance)]

/-- Token balances as a document. -/
def TokenBalance.listToJson (tokens : List TokenBalance) : Json :=
  .arr (tokens.map TokenBalance.toJson)

open Json.Decoder in
/-- A token balance from a document. -/
def TokenBalance.decoder : Json.Decoder TokenBalance := fun r => do
  let fields ← record
    [field "symbol" text, field "decimals" text, field "address" text, field "balance" text] r
  return {
    symbol := ← fields.need "symbol" text
    decimals := ← fields.need "decimals" text
    address := ← fields.need "address" text
    balance := ← fields.need "balance" text }

open Json.Decoder in
/-- A refresh from a document. -/
def Balances.decoder : Json.Decoder Balances := fun r => do
  let tokens := list TokenBalance.decoder
  let fields ← record [field "balance" text, field "tokens" tokens] r
  return { balance := ← fields.need "balance" text, tokens := ← fields.need "tokens" tokens }

/-- An account as a document. -/
def Account.toJson (a : Account) : Json :=
  .object [("address", .str a.address), ("balance", .str a.balance),
    ("erc20token", TokenBalance.listToJson a.tokens), ("is_active", .bool a.isActive),
    ("updated_at", .orNull (fun t => .int t.toInt) a.updatedAt)]

open Json.Decoder in
/-- An account from a document. -/
def Account.decoder : Json.Decoder Account := fun r => do
  let tokens := list TokenBalance.decoder
  let fields ← record
    [field "address" text, field "balance" text, field "erc20token" tokens, field "is_active" flag,
      field "updated_at" (optional signed64)] r
  return {
    address := ← fields.need "address" text
    balance := ← fields.need "balance" text
    tokens := ← fields.orElse "erc20token" tokens []
    isActive := ← fields.orElse "is_active" flag true
    updatedAt := ← fields.orElse "updated_at" (optional signed64) none }

end TransferLedger
