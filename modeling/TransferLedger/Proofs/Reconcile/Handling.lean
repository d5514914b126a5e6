/-
# TransferLedger.Proofs.Reconcile.Handling -- the stages of a delivery

A delivery that meets no failure goes through five stages: it arrives, its account is found,
refreshed and saved, and its update is told. Each stage follows from the one before and from what
the shared state holds at that moment.
-/

import TransferLedger.Proofs.Account.Merge
import TransferLedger.Proofs.Account.Stored
import TransferLedger.Reconcile.Handling

namespace TransferLedger

open TransferLedger.Text

/-- The address that a notification tells is in lower case. -/
theorem Notification.lower_address {routing : Routing} {d : Delivery} {n : Notification}
    (h : ofDelivery routing d = .ok n) : lower n.address = n.address := by
  unfold ofDelivery at h
  split at h
  case h_1 => cases h
  case h_2 body _ =>
    split at h
    case h_1 => cases h
    case h_2 address _ =>
      obtain ⟨transaction, -, made⟩ := Fallible.bind_eq_ok.mp h
      cases made
      exact lower_lower address

namespace Reconciler

/-- No call that a handling makes of the account store or the bus fails. -/
structure Unfailing (r : Reconciler) : Prop where
  getAccount : r.faults.getAccount = none
  saveAccount : r.faults.saveAccount = none
  publish : r.faults.publish = none

/-- **What a delivery amounts to in a world:** what it tells, and the balances that are read. -/
structure Amounts (r : Reconciler) (w : World) (d : Delivery) (n : Notification)
    (fresh : Balances) : Prop where
  tells : Notification.ofDelivery r.routing d = .ok n
  reads : (readBalances r.compiler r.chain r.faults w n.address n.transaction).answer = .ok fresh

/-- What is told about an account after a refresh. -/
def told (r : Reconciler) (n : Notification) (fresh : Balances) (account : Account) :
    BalanceUpdate :=
  .ofAccount (account.merge fresh r.now) n.transaction

variable {r : Reconciler} {w : World} {d : Delivery} {n : Notification} {fresh : Balances}
  {account : Account}

/-! ## What each stage can come to -/

/-- An arrived delivery finds its account, or it is over and nothing has changed. -/
theorem step_arrived_cases (r : Reconciler) (d : Delivery) (w : World) :
    (∃ n account, Notification.ofDelivery r.routing d = .ok n ∧ r.faults.getAccount = none ∧
      w.accounts.get? n.address = .ok (some account) ∧
      r.step (.arrived d) w = (.found n account, w, [])) ∨
    ∃ result, (∀ u, result ≠ .ok (.updated u)) ∧ r.step (.arrived d) w = (.done result, w, []) := by
  cases tells : Notification.ofDelivery r.routing d with
  | error e => exact .inr ⟨.error e, by simp, by simp only [step, lookUp, tells]⟩
  | ok n =>
    cases looked : w.getAccount r.faults n.address with
    | error e => exact .inr ⟨.error e, by simp, by simp only [step, lookUp, tells, looked]⟩
    | ok found =>
      cases found with
      | none =>
        exact .inr ⟨.ok (.skipped n.address), by simp, by simp only [step, lookUp, tells, looked]⟩
      | some account =>
        obtain ⟨safe, held⟩ := unlessFaulty_eq_ok.mp looked
        exact .inl ⟨n, account, rfl, safe, held, by simp only [step, lookUp, tells, looked]⟩

/-- A found account is refreshed, or the delivery is over and nothing has changed. -/
theorem step_found_cases (r : Reconciler) (n : Notification) (account : Account) (w : World) :
    (∃ fresh asked,
      (readBalances r.compiler r.chain r.faults w n.address n.transaction).answer = .ok fresh ∧
      r.step (.found n account) w = (.refreshed n (account.merge fresh r.now), w, asked)) ∨
    ∃ e asked, r.step (.found n account) w = (.done (.error e), w, asked) := by
  cases reads : (readBalances r.compiler r.chain r.faults w n.address n.transaction).answer with
  | error e =>
    exact .inr ⟨e.within ("Balance aggregation failed for " ++ n.address),
      (readBalances r.compiler r.chain r.faults w n.address n.transaction).asked,
      by simp only [step, refresh, Inquiry.within, reads, Fallible.mapError_error]⟩
  | ok fresh =>
    exact .inl ⟨fresh,
      (readBalances r.compiler r.chain r.faults w n.address n.transaction).asked, rfl,
      by simp only [step, refresh, Inquiry.within, reads, Fallible.mapError_ok]⟩

/-- A refreshed account is saved, or the delivery is over and nothing has changed. -/
theorem step_refreshed_cases (r : Reconciler) (n : Notification) (account : Account) (w : World) :
    (r.faults.saveAccount = none ∧ r.step (.refreshed n account) w =
      (.saved n account, { w with accounts := w.accounts.save account }, [])) ∨
    ∃ e, r.faults.saveAccount = some e ∧
      r.step (.refreshed n account) w = (.done (.error e), w, []) := by
  cases saves : r.faults.saveAccount with
  | some e =>
    exact .inr ⟨e, rfl, by simp only [step, save, World.saveAccount, saves, unlessFaulty]⟩
  | none => exact .inl ⟨rfl, by simp only [step, save, World.saveAccount, saves, unlessFaulty]⟩

/-- The world after the update of a saved account has been published. -/
def announced (r : Reconciler) (n : Notification) (account : Account) (w : World) : World :=
  let p : RoutedUpdate := ⟨r.routing.balance account.address, .ofAccount account n.transaction⟩
  { w with bus := w.bus.publish p }

/-- The update of a saved account is told, or the delivery is over and nothing more has changed. -/
theorem step_saved_cases (r : Reconciler) (n : Notification) (account : Account) (w : World) :
    (r.faults.publish = none ∧ r.step (.saved n account) w =
      (.done (.ok (.updated (.ofAccount account n.transaction))), r.announced n account w, [])) ∨
    ∃ e, r.faults.publish = some e ∧
      r.step (.saved n account) w = (.done (.error e), w, []) := by
  cases publishes : r.faults.publish with
  | some e =>
    exact .inr ⟨e, rfl, by simp only [step, announce, World.publish, publishes, unlessFaulty]⟩
  | none =>
    exact .inl ⟨rfl, by simp only [step, announce, World.publish, publishes, unlessFaulty, announced]⟩

theorem step_done (result : Except Failure Outcome) (w : World) :
    r.step (.done result) w = (.done result, w, []) := rfl

theorem steps_done (k : Nat) (result : Except Failure Outcome) (w : World) :
    r.steps k (.done result) w = (.done result, w, []) := by
  induction k with
  | zero => rfl
  | succ k ih => simp only [steps, step_done, ih, List.append_nil]

/-- **What a delivery does in one step,** and what has to hold for it: it comes to its next stage, or
it is over. Only a save and a message change the shared state; a step that fails leaves it alone. -/
inductive Stepped (r : Reconciler) (w : World) :
    Handling → Handling × World × List Question → Prop
  | found {d : Delivery} {n : Notification} {account : Account}
      (tells : Notification.ofDelivery r.routing d = .ok n) (safe : r.faults.getAccount = none)
      (held : w.accounts.get? n.address = .ok (some account)) :
    Stepped r w (.arrived d) (.found n account, w, [])
  | dropped {d : Delivery} {o : Except Failure Outcome} (silent : ∀ u, o ≠ .ok (.updated u)) :
    Stepped r w (.arrived d) (.done o, w, [])
  | refreshed {n : Notification} {account : Account} {fresh : Balances} {asked : List Question}
      (reads : (readBalances r.compiler r.chain r.faults w n.address n.transaction).answer =
        .ok fresh) :
    Stepped r w (.found n account) (.refreshed n (account.merge fresh r.now), w, asked)
  | unread {n : Notification} {account : Account} {e : Failure} {asked : List Question} :
    Stepped r w (.found n account) (.done (.error e), w, asked)
  | saved {n : Notification} {account : Account} (safe : r.faults.saveAccount = none) :
    Stepped r w (.refreshed n account)
      (.saved n account, { w with accounts := w.accounts.save account }, [])
  | unsaved {n : Notification} {account : Account} {e : Failure}
      (fault : r.faults.saveAccount = some e) :
    Stepped r w (.refreshed n account) (.done (.error e), w, [])
  | told {n : Notification} {account : Account} (safe : r.faults.publish = none) :
    Stepped r w (.saved n account)
      (.done (.ok (.updated (.ofAccount account n.transaction))), r.announced n account w, [])
  | untold {n : Notification} {account : Account} {e : Failure} (fault : r.faults.publish = some e) :
    Stepped r w (.saved n account) (.done (.error e), w, [])
  | done (o : Except Failure Outcome) : Stepped r w (.done o) (.done o, w, [])

theorem stepped (r : Reconciler) (h : Handling) (w : World) : Stepped r w h (r.step h w) := by
  cases h with
  | arrived d =>
    rcases step_arrived_cases r d w with ⟨n, account, tells, safe, held, step⟩ | ⟨o, silent, step⟩
    · exact step ▸ .found tells safe held
    · exact step ▸ .dropped silent
  | found n account =>
    rcases step_found_cases r n account w with ⟨fresh, asked, reads, step⟩ | ⟨e, asked, step⟩
    · exact step ▸ .refreshed reads
    · exact step ▸ .unread
  | refreshed n account =>
    rcases step_refreshed_cases r n account w with ⟨safe, step⟩ | ⟨e, fault, step⟩
    · exact step ▸ .saved safe
    · exact step ▸ .unsaved fault
  | saved n account =>
    rcases step_saved_cases r n account w with ⟨safe, step⟩ | ⟨e, fault, step⟩
    · exact step ▸ .told safe
    · exact step ▸ .untold fault
  | done o => exact .done o

/-! ## Without a failure -/

theorem step_arrived (safe : r.faults.getAccount = none)
    (tells : Notification.ofDelivery r.routing d = .ok n)
    (found : w.accounts.get? n.address = .ok (some account)) :
    r.step (.arrived d) w = (.found n account, w, []) := by
  have answer : w.getAccount r.faults n.address = .ok (some account) := by
    rw [World.getAccount, safe, found]
    rfl
  simp only [step, lookUp, tells, answer]

/-- The balances depend on the logs only. -/
theorem readBalances_congr {v : World} (logs : v.logs = w.logs) (compiler : FilterCompiler)
    (chain : Chain) (faults : Faults) (address : String) (transaction : Option Transaction) :
    readBalances compiler chain faults v address transaction =
      readBalances compiler chain faults w address transaction := by
  have known : knownTokens compiler faults v address = knownTokens compiler faults w address := by
    simp only [knownTokens, World.distinctLogs, logs]
  unfold readBalances
  rw [known]

theorem step_found {v : World} (amounts : r.Amounts w d n fresh) (logs : v.logs = w.logs)
    (account : Account) :
    ∃ asked, r.step (.found n account) v = (.refreshed n (account.merge fresh r.now), v, asked) := by
  refine ⟨(readBalances r.compiler r.chain r.faults w n.address n.transaction).asked, ?_⟩
  simp only [step, refresh, Inquiry.within, readBalances_congr logs, amounts.reads]
  rfl

theorem step_refreshed (safe : r.faults.saveAccount = none) (n : Notification) (account : Account)
    (w : World) :
    r.step (.refreshed n account) w =
      (.saved n account, { w with accounts := w.accounts.save account }, []) := by
  rcases step_refreshed_cases r n account w with ⟨-, saved⟩ | ⟨e, fault, -⟩
  · exact saved
  · exact nomatch safe.symm.trans fault

theorem step_saved (safe : r.faults.publish = none) (n : Notification) (account : Account)
    (w : World) :
    r.step (.saved n account) w =
      (.done (.ok (.updated (.ofAccount account n.transaction))), r.announced n account w, []) := by
  rcases step_saved_cases r n account w with ⟨-, told⟩ | ⟨e, fault, -⟩
  · exact told
  · exact nomatch safe.symm.trans fault

/-! ## From the arrival to the end -/

/-- **A delivery that meets no failure** saves the refreshed account and tells its balances. -/
theorem handle_of_amounts (safe : r.Unfailing) (amounts : r.Amounts w d n fresh)
    (found : w.accounts.get? n.address = .ok (some account)) :
    (r.handle d w).1 = .ok (.updated (r.told n fresh account)) ∧
      (r.handle d w).2.1.accounts = w.accounts.save (account.merge fresh r.now) ∧
      (r.handle d w).2.1.logs = w.logs := by
  obtain ⟨asked, refreshed⟩ := step_found amounts rfl account
  simp only [handle, steps, step_arrived safe.getAccount amounts.tells found, refreshed,
    step_refreshed safe.saveAccount, step_saved safe.publish]
  exact ⟨rfl, rfl, rfl⟩

/-- **A delivery whose balances were told** met no failure. -/
theorem amounts_of_handle {u : BalanceUpdate} (h : (r.handle d w).1 = .ok (.updated u)) :
    r.Unfailing ∧ ∃ n fresh account, r.Amounts w d n fresh ∧
      w.accounts.get? n.address = .ok (some account) ∧ u = r.told n fresh account := by
  simp only [handle, steps] at h
  rcases step_arrived_cases r d w with ⟨n, account, tells, gets, found, arrived⟩ | ⟨_, other, ended⟩
  case inr => simp only [ended, step_done, result] at h; exact absurd h (other u)
  rcases step_found_cases r n account w with ⟨fresh, asked, reads, refreshed⟩ | ⟨e, asked, ended⟩
  case inr => simp only [arrived, ended, step_done, result, reduceCtorEq] at h
  rcases step_refreshed_cases r n (account.merge fresh r.now) w with ⟨saves, saved⟩ | ⟨e, -, ended⟩
  case inr => simp only [arrived, refreshed, ended, step_done, result, reduceCtorEq] at h
  rcases step_saved_cases r n (account.merge fresh r.now)
    { w with accounts := w.accounts.save (account.merge fresh r.now) } with
    ⟨publishes, told⟩ | ⟨e, -, ended⟩
  case inr => simp only [arrived, refreshed, saved, ended, result, reduceCtorEq] at h
  simp only [arrived, refreshed, saved, told, result, Except.ok.injEq, Outcome.updated.injEq] at h
  exact ⟨⟨gets, saves, publishes⟩, n, fresh, account, ⟨tells, reads⟩, found, h.symm⟩

end Reconciler

end TransferLedger
