/-
# TransferLedger.Reconcile.Refresh -- reading balances from the chain

A refresh reads the balance of every token that an account may hold, one token after the other, and
then its native balance. With a transaction at hand these are the tokens that it moved; otherwise
they are all tokens that the stored transfers from or to the account name.
-/

import TransferLedger.Chain.Token
import TransferLedger.Query.Compile
import TransferLedger.Reconcile.World

namespace TransferLedger

open TransferLedger.Text

/-- How many hex digits a topic has. -/
def topicDigits : Nat := 64

/-- **An address as a topic:** in lower case, without its mark, filled up with zeros in front. -/
def topicOfAddress (address : String) : String :=
  let digits := (lower (String.ofList (dropHexMark address.toList))).toList
  String.ofList ("0x".toList ++ List.replicate (topicDigits - digits.length) '0' ++ digits)

/-- The tokens of the stored transfers from or to an address. -/
def knownTokens (compiler : FilterCompiler) (faults : Faults) (w : World) (address : String) :
    Except Failure (List String) :=
  match compiler.compile (.touching (topicOfAddress address)) with
  | .error e => .error ⟨["Cannot build token query for " ++ address], .filter e⟩
  | .ok q =>
    (w.distinctLogs faults .address q).mapError (.within "Token lookup in log store failed")

/-- The balance of an owner of a token, with what the token tells about itself. -/
def readToken (chain : Chain) (owner token : String) : Inquiry TokenBalance := do
  let balance ← chain.tokenBalance token owner
  let symbol ← chain.tokenSymbol token
  let decimals ← chain.tokenDecimals token
  return ⟨symbol, decimals, lower token, balance.toDecimal⟩

/-- The balances of an owner of some tokens, one after the other. -/
def readTokens (chain : Chain) (owner : String) : List String → Inquiry (List TokenBalance)
  | [] => return []
  | token :: rest => do
    let balance ← readToken chain owner token
    let balances ← readTokens chain owner rest
    return balance :: balances

/-- **The balances of an address,** all read from the chain. -/
def readBalances (compiler : FilterCompiler) (chain : Chain) (faults : Faults) (w : World)
    (address : String) (transaction : Option Transaction) : Inquiry Balances := do
  let tokens ← Inquiry.ofExcept
    (match transaction with
      | some t => .ok t.tokens
      | none => knownTokens compiler faults w address)
  let balances ← readTokens chain address tokens
  let native ← (chain.askBalance address).within ("eth_getBalance(" ++ address ++ ") failed")
  return ⟨native.toDecimal, balances⟩

end TransferLedger
