/-
# TransferLedger.Account.File -- the table of accounts in a file

The accounts of a table stand in a database file. Opening the file makes the table if the database
has none and takes it as it is otherwise. Every save is written to the file at once, so that closing
the table leaves all saved accounts there.
-/

import TransferLedger.Account.Store

namespace TransferLedger

/-- **What stands at the path of the accounts.** -/
inductive AccountFile where
  /-- Nothing can be opened there, and nothing made. -/
  | closedOff
  /-- A file that is no database. -/
  | foreign
  /-- A database, with its table of accounts if it has one. -/
  | database (accounts : Option AccountTable)
deriving DecidableEq, Repr

/-- The database without any table, which is also what a file becomes that is not there yet. -/
def AccountFile.new : AccountFile := .database none

/-- The table of a file. -/
def AccountFile.opened (path : String) : AccountFile → Except Failure AccountTable
  | closedOff => .error (unopenedAccounts path)
  | foreign => .error (.of .database)
  | database accounts => .ok (accounts.getD .empty)

/-- A call on a table of accounts: a save, or closing it and opening its file again. -/
inductive AccountCall where
  | save (account : Account)
  | reopen
deriving DecidableEq, Repr

namespace AccountTable

/-- The file that a closed table leaves. -/
def closed (table : AccountTable) : AccountFile := .database (some table)

/-- The table after a call. -/
def after (path : String) (table : AccountTable) : AccountCall → Except Failure AccountTable
  | .save account => .ok (table.save account)
  | .reopen => table.closed.opened path

end AccountTable

end TransferLedger
