/-
# TransferLedger.Proofs.Account.Agreement -- both account stores answer alike

Whatever is saved in whatever order, an account store gives back the account that was saved last
under an address, letter case passed over. A table gives the address in lower case, and it answers
the same however often its file is closed and opened again in between.
-/

import TransferLedger.Account.File
import TransferLedger.Proofs.Account.Stored
import TransferLedger.Proofs.LastOfEach

namespace TransferLedger

open TransferLedger.Text

/-- The last of some saved accounts that has an address, in any letter case. -/
def lastSaved (address : String) (saves : List Account) : Option Account :=
  (saves.filter fun a => sameIgnoringCase a.address address).getLast?

/-! ## Saves in a row -/

/-- **After any saves in process** an account is as it was saved last. -/
theorem AccountMap.get?_foldl_save (saves : List Account) (address : String) :
    (saves.foldl save empty).get? address = lastSaved address saves := by
  have each : ∀ (map : AccountMap) a, True → (map.save a).get? address =
      if sameIgnoringCase a.address address then some a else map.get? address := by
    intro map a _
    split
    case isTrue own => exact get?_save (sameIgnoringCase_iff.mp own).symm map
    case isFalse other => exact get?_save_of_ne (fun e => other (sameIgnoringCase_iff.mpr e.symm)) map
  rw [read_foldl (fun _ => True) (get? · address) (fun _ _ h => h) each saves trivial, ← lastSaved]
  cases lastSaved address saves <;> rfl

/-- **After any saves in a table** an account is as it was saved last, but for its address. -/
theorem AccountTable.get?_foldl_save (saves : List Account) (address : String) :
    (saves.foldl save empty).get? address =
      .ok ((lastSaved address saves).map fun a => { a with address := lower a.address }) := by
  have each : ∀ (table : AccountTable) a, True → (table.save a).get? address =
      if sameIgnoringCase a.address address then .ok (some { a with address := lower a.address })
      else table.get? address := by
    intro table a _
    split
    case isTrue own => exact get?_save (sameIgnoringCase_iff.mp own).symm table
    case isFalse other =>
      exact get?_save_of_ne (fun e => other (sameIgnoringCase_iff.mpr e.symm)) table
  rw [read_foldl (fun _ => True) (get? · address) (fun _ _ h => h) each saves trivial, ← lastSaved]
  cases lastSaved address saves <;> rfl

/-! ## Calls in a row -/

/-- The accounts that some calls save. -/
def AccountCall.saved : List AccountCall → List Account
  | [] => []
  | save account :: rest => account :: saved rest
  | reopen :: rest => saved rest

/-- **Closing and opening again** passes unnoticed among saves. -/
theorem AccountTable.foldlM_after (path : String) (calls : List AccountCall) (table : AccountTable) :
    calls.foldlM (after path) table = .ok ((AccountCall.saved calls).foldl save table) := by
  induction calls generalizing table with
  | nil => rfl
  | cons call rest ih =>
    cases call with
    | save account => exact ih (table.save account)
    | reopen => exact ih table

/-- The table that some calls leave in a file that was not there before. -/
def AccountCall.session (path : String) (calls : List AccountCall) : Except Failure AccountTable := do
  calls.foldlM (AccountTable.after path) (← AccountFile.new.opened path)

theorem AccountCall.session_eq (path : String) (calls : List AccountCall) :
    session path calls = .ok ((saved calls).foldl AccountTable.save .empty) :=
  AccountTable.foldlM_after path calls .empty

/-! ## The main theorem -/

/-- **Both account stores answer alike.** Under every address stands the account that was saved last
under it, or none. The table never fails to open or to answer, whenever its file is closed and opened
again, and what it gives differs from what is kept in process in the letter case of the address. -/
theorem account_stores_agree (path : String) (calls : List AccountCall) :
    ∃ table, AccountCall.session path calls = .ok table ∧
      ∀ address,
        ((AccountCall.saved calls).foldl AccountMap.save .empty).get? address =
            lastSaved address (AccountCall.saved calls) ∧
          table.get? address =
            .ok ((lastSaved address (AccountCall.saved calls)).map fun a =>
              { a with address := lower a.address }) := by
  exact ⟨_, AccountCall.session_eq path calls, fun address =>
    ⟨AccountMap.get?_foldl_save _ address, AccountTable.get?_foldl_save _ address⟩⟩

end TransferLedger
