/-
# TransferLedger.Account.Store -- accounts by address

Accounts are found by their address without regard to letter case. In process an account comes back
as it was saved. In the table its address is kept in lower case and its tokens as document text, and
a later save leaves the address column alone.
-/

import TransferLedger.Account.Basic
import TransferLedger.Failure
import TransferLedger.Json.Printer
import TransferLedger.Text.Utf8

namespace TransferLedger

open TransferLedger.Text

/-! ## In process -/

/-- **An account store in process:** accounts under their address in lower case. -/
structure AccountMap where
  accounts : List (String × Account)
  keyed : ∀ entry ∈ accounts, entry.1 = lower entry.2.address
deriving DecidableEq, Repr

namespace AccountMap

/-- The store without accounts. -/
def empty : AccountMap := ⟨[], by simp⟩

/-- The account of an address. -/
def get? (store : AccountMap) (address : String) : Option Account :=
  store.accounts.lookup (lower address)

/-- The store with an account saved. -/
def save (store : AccountMap) (account : Account) : AccountMap where
  accounts :=
    (lower account.address, account) :: store.accounts.filter (·.1 != lower account.address)
  keyed := by
    intro entry hentry
    rcases List.mem_cons.mp hentry with rfl | held
    · rfl
    · exact store.keyed entry (List.mem_filter.mp held).1

end AccountMap

/-! ## In a table -/

/-- A line of the table of accounts. -/
structure AccountLine where
  address : String
  balance : String
  tokens : String
  isActive : Bool
  updatedAt : Option Int64
deriving DecidableEq, Repr

/-- **An account store in a table.** -/
structure AccountTable where
  lines : List AccountLine
deriving DecidableEq, Repr

/-- The account of an address whose tokens are no list of token balances. -/
structure BadTokens where
  address : String
deriving DecidableEq, Repr

/-- The failure of an account with bad tokens. -/
def BadTokens.failure (e : BadTokens) : Failure :=
  ⟨["Invalid erc20token column for " ++ e.address], .json⟩

/-- The failure of a table that cannot be opened. -/
def unopenedAccounts (path : String) : Failure :=
  ⟨["Failed to open account database at " ++ path], .database⟩

namespace AccountLine

/-- The line of an account. -/
def ofAccount (account : Account) : AccountLine :=
  ⟨lower account.address, account.balance, (TokenBalance.listToJson account.tokens).render,
    account.isActive, account.updatedAt⟩

/-- The account of a line. -/
def toAccount (line : AccountLine) : Except BadTokens Account :=
  match Json.Decoder.ofText? (Json.Decoder.list TokenBalance.decoder) (Utf8.encode line.tokens) with
  | some tokens => .ok ⟨line.address, line.balance, tokens, line.isActive, line.updatedAt⟩
  | none => .error ⟨line.address⟩

end AccountLine

namespace AccountTable

/-- The table without lines. -/
def empty : AccountTable := ⟨[]⟩

/-- The account of an address. -/
def get? (table : AccountTable) (address : String) : Except BadTokens (Option Account) :=
  match table.lines.find? (·.address == lower address) with
  | none => .ok none
  | some line => line.toAccount.map some

/-- The table with an account saved: a new line, or the line of its address changed. -/
def save (table : AccountTable) (account : Account) : AccountTable :=
  let line := AccountLine.ofAccount account
  if table.lines.any (·.address == line.address) then
    ⟨table.lines.map fun l => if l.address = line.address then line else l⟩
  else ⟨table.lines ++ [line]⟩

/-- The table with the token text of an address overwritten, and how many lines had it. -/
def overwrite (table : AccountTable) (address text : String) : AccountTable × Nat :=
  (⟨table.lines.map fun l => if l.address = address then { l with tokens := text } else l⟩,
    table.lines.countP (·.address == address))

end AccountTable

/-! ## A store of either kind -/

/-- **An account store.** -/
inductive AccountStore where
  | memory (store : AccountMap)
  | table (table : AccountTable)
deriving DecidableEq, Repr

namespace AccountStore

/-- The account of an address. -/
def get? : AccountStore → String → Except Failure (Option Account)
  | memory s, address => .ok (s.get? address)
  | table t, address => (t.get? address).mapError BadTokens.failure

/-- The store with an account saved. -/
def save : AccountStore → Account → AccountStore
  | memory s, account => memory (s.save account)
  | table t, account => table (t.save account)

end AccountStore

end TransferLedger
