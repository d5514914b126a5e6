/-
# TransferLedger.Proofs.Reconcile.Atomic -- a delivery is handled as a whole or not at all

A delivery writes to the shared state twice, when it saves its account and when it publishes the
balances, and these are its last two steps. So whatever goes wrong before the save has succeeded
leaves the world as it was, and after it only the publish can still go wrong. If it does not, the bus
has carried one message more, which tells the account now stored. No step touches the record of another
address.
-/

import TransferLedger.Proofs.Account.Records
import TransferLedger.Proofs.Reconcile.Bus
import TransferLedger.Proofs.Reconcile.Handling

namespace TransferLedger

open TransferLedger.Text

namespace Reconciler

variable {r : Reconciler} {d : Delivery} {w : World} {n : Notification} {account : Account}

/-! ## Up to the save -/

/-- **A delivery when only its publish is left to do,** and the world at that moment. One that is
over by then has been skipped or has failed at its save at the latest. -/
def upToSave (r : Reconciler) (d : Delivery) (w : World) : Handling × World :=
  let (h, v, _) := r.steps 3 (.arrived d) w
  (h, v)

/-- The last of some steps may be taken apart from the others. -/
theorem steps_last (k : Nat) (h : Handling) (w : World) :
    r.steps (k + 1) h w =
      ((r.step (r.steps k h w).1 (r.steps k h w).2.1).1,
        (r.step (r.steps k h w).1 (r.steps k h w).2.1).2.1,
        (r.steps k h w).2.2 ++ (r.step (r.steps k h w).1 (r.steps k h w).2.1).2.2) := by
  induction k generalizing h w with
  | zero => simp only [steps, List.append_nil, List.nil_append]
  | succ k ih =>
    have next := ih (r.step h w).1 (r.step h w).2.1
    simp only [steps, Prod.mk.injEq] at next ⊢
    exact ⟨next.1, next.2.1, by rw [next.2.2, List.append_assoc]⟩

/-- The publish is the last step of a handling. -/
theorem handle_eq_step (r : Reconciler) (d : Delivery) (w : World) :
    (r.handle d w).1 = result (r.step (r.upToSave d w).1 (r.upToSave d w).2).1 ∧
      (r.handle d w).2.1 = (r.step (r.upToSave d w).1 (r.upToSave d w).2).2.1 := by
  rw [handle, upToSave, steps_last 3]
  exact ⟨rfl, rfl⟩

/-- **Up to its save** a delivery comes to an end and nothing has changed, or its refreshed account
has been saved and nothing else has changed. -/
theorem upToSave_cases (r : Reconciler) (d : Delivery) (w : World) :
    (∃ result, (∀ u, result ≠ .ok (.updated u)) ∧ r.upToSave d w = (.done result, w)) ∨
    ∃ n fresh account, r.faults.getAccount = none ∧ r.faults.saveAccount = none ∧
      r.Amounts w d n fresh ∧ w.accounts.get? n.address = .ok (some account) ∧
      r.upToSave d w = (.saved n (account.merge fresh r.now),
        { w with accounts := w.accounts.save (account.merge fresh r.now) }) := by
  -- At each of the three stages the delivery goes on or is over; over, it takes no step any more.
  rcases step_arrived_cases r d w with ⟨n, account, tells, gets, found, arrived⟩ | ⟨o, other, ended⟩
  case inr => exact .inl ⟨o, other, by simp only [upToSave, steps, ended, step_done]⟩
  rcases step_found_cases r n account w with ⟨fresh, asked, reads, refreshed⟩ | ⟨e, asked, ended⟩
  case inr => exact .inl ⟨.error e, by simp, by simp only [upToSave, steps, arrived, ended, step_done]⟩
  rcases step_refreshed_cases r n (account.merge fresh r.now) w with ⟨saves, saved⟩ | ⟨e, -, ended⟩
  case inr => exact .inl ⟨.error e, by simp, by simp only [upToSave, steps, arrived, refreshed, ended]⟩
  exact .inr ⟨n, fresh, account, gets, saves, ⟨tells, reads⟩, found,
    by simp only [upToSave, steps, arrived, refreshed, saved]⟩

/-- **A delivery comes past its save** exactly when it can be read, its account is found, all its
balances are read from the chain, and neither call of the account store fails. -/
theorem upToSave_eq_saved_iff :
    (r.upToSave d w).1 = .saved n account ↔
      r.faults.getAccount = none ∧ r.faults.saveAccount = none ∧
      ∃ held fresh, r.Amounts w d n fresh ∧ w.accounts.get? n.address = .ok (some held) ∧
        account = held.merge fresh r.now := by
  constructor
  · intro h
    rcases upToSave_cases r d w with ⟨o, -, ended⟩ | ⟨m, fresh, held, gets, saves, amounts, found, saved⟩
    · simp only [ended, reduceCtorEq] at h
    · simp only [saved, Handling.saved.injEq] at h
      obtain ⟨rfl, rfl⟩ := h
      exact ⟨gets, saves, held, fresh, amounts, found, rfl⟩
  · rintro ⟨gets, saves, held, fresh, amounts, found, rfl⟩
    obtain ⟨asked, refreshed⟩ := step_found amounts rfl held
    simp only [upToSave, steps, step_arrived gets amounts.tells found, refreshed,
      step_refreshed saves]

/-! ## To the end -/

/-- A delivery that is over before its publish stays so. -/
theorem handle_of_done {o : Except Failure Outcome} (h : r.upToSave d w = (.done o, w)) :
    (r.handle d w).1 = o ∧ (r.handle d w).2.1 = w := by
  obtain ⟨outcome, after⟩ := handle_eq_step r d w
  rw [h, step_done] at outcome after
  exact ⟨outcome, after⟩

/-- A delivery whose account has been saved ends well, or its publish fails and nothing more has
changed. -/
theorem handle_of_saved {v : World} (h : r.upToSave d w = (.saved n account, v)) :
    (r.faults.publish = none ∧
      (r.handle d w).1 = .ok (.updated (.ofAccount account n.transaction)) ∧
      (r.handle d w).2.1 = r.announced n account v) ∨
    ∃ e, r.faults.publish = some e ∧ (r.handle d w).1 = .error e ∧ (r.handle d w).2.1 = v := by
  obtain ⟨outcome, after⟩ := handle_eq_step r d w
  rw [h] at outcome after
  rcases step_saved_cases r n account v with ⟨safe, step⟩ | ⟨e, fault, step⟩
  · rw [step] at outcome after
    exact .inl ⟨safe, outcome, after⟩
  · rw [step] at outcome after
    exact .inr ⟨e, fault, outcome, after⟩

/-- **What handling a delivery leaves,** however it ends. -/
structure Atomic (r : Reconciler) (d : Delivery) (w : World) : Prop where
  /-- A skipped delivery leaves the world as it was. -/
  skipped : ∀ address, (r.handle d w).1 = .ok (.skipped address) → (r.handle d w).2.1 = w
  /-- So does one that fails before or at its save. -/
  unsaved : ∀ e, (r.upToSave d w).1 = .done (.error e) →
    (r.handle d w).1 = .error e ∧ (r.handle d w).2.1 = w
  /-- The save succeeds unless something fails before the publish, and what it saves is the account
  that was found, refreshed with the balances that were read. -/
  saved : ∀ n account, (r.upToSave d w).1 = .saved n account ↔
    r.faults.getAccount = none ∧ r.faults.saveAccount = none ∧
      ∃ held fresh, r.Amounts w d n fresh ∧ w.accounts.get? n.address = .ok (some held) ∧
        account = held.merge fresh r.now
  /-- If only the publish fails, this account is stored and nothing else has changed. -/
  unpublished : ∀ n account e, (r.upToSave d w).1 = .saved n account → r.faults.publish = some e →
    (r.handle d w).1 = .error e ∧
      (r.handle d w).2.1 = { w with accounts := w.accounts.save account } ∧
      (r.handle d w).2.1.accounts.get? n.address = .ok (some account)
  /-- There is no other way to fail. -/
  failed : ∀ e, (r.handle d w).1 = .error e → (r.upToSave d w).1 = .done (.error e) ∨
    ∃ n account, (r.upToSave d w).1 = .saved n account ∧ r.faults.publish = some e
  /-- If nothing fails, the delivery ends well. -/
  published : ∀ n account, (r.upToSave d w).1 = .saved n account → r.faults.publish = none →
    ∃ u, (r.handle d w).1 = .ok (.updated u)
  /-- A delivery that ends well tells the account now stored, and the bus has carried one message more,
  which tells the same under the key of the address. -/
  updated : ∀ u, (r.handle d w).1 = .ok (.updated u) →
    ∃ n stored, (r.upToSave d w).1 = .saved n stored ∧
      Notification.ofDelivery r.routing d = .ok n ∧
      (r.handle d w).2.1.accounts.get? n.address = .ok (some stored) ∧
      u.address = stored.address ∧ u.balance = stored.balance ∧ u.tokens = stored.tokens ∧
      u.transaction = n.transaction ∧
      w.bus.Carried (r.handle d w).2.1.bus
        ⟨r.routing.service ++ "_balance." ++ stored.address, u⟩
  /-- The records of all other addresses stay as they are. -/
  others : ∀ key, (∀ n, Notification.ofDelivery r.routing d = .ok n → key ≠ n.address) →
    (r.handle d w).2.1.accounts.recordsAt key = w.accounts.recordsAt key
  /-- No account is created or deleted. -/
  holders : ∀ key,
    (r.handle d w).2.1.accounts.recordsAt key ≠ [] ↔ w.accounts.recordsAt key ≠ []
  logs : (r.handle d w).2.1.logs = w.logs

/-- A delivery that ends before its publish, and not with an update, is handled as a whole. -/
theorem atomic_of_done {o : Except Failure Outcome} (h : r.upToSave d w = (.done o, w))
    (other : ∀ u, o ≠ .ok (.updated u)) : r.Atomic d w := by
  obtain ⟨outcome, after⟩ := handle_of_done h
  constructor
  case skipped => exact fun _ _ => after
  case unsaved =>
    intro e ended
    rw [h] at ended
    exact ⟨outcome.trans (Handling.done.inj ended), after⟩
  case saved => exact fun n account => upToSave_eq_saved_iff
  case unpublished => intro n account e saved; simp only [h, reduceCtorEq] at saved
  case failed => exact fun e failed => .inl (by rw [h, ← outcome, failed])
  case published => intro n account saved; simp only [h, reduceCtorEq] at saved
  case updated => exact fun u told => absurd (outcome.symm.trans told) (other u)
  case others => exact fun key _ => congrArg (·.accounts.recordsAt key) after
  case holders => exact fun key => by rw [after]
  case logs => rw [after]

/-- A delivery that has saved its account is handled as a whole, whether its publish fails or not. -/
theorem atomic_of_saved {held : Account}
    (saved : r.upToSave d w = (.saved n account, { w with accounts := w.accounts.save account }))
    (tells : Notification.ofDelivery r.routing d = .ok n)
    (found : w.accounts.get? n.address = .ok (some held)) (same : account.address = held.address) :
    r.Atomic d w := by
  have own : lower n.address = lower account.address := by
    rw [same, AccountStore.lower_address_of_get? found]
  -- A store may spell an address in its own way, but this one was found there with its spelling.
  have stored : (w.accounts.save account).get? n.address = .ok (some account) := by
    rw [AccountStore.get?_save own, AccountStore.kept_of_get? found same]
  have accounts : (r.handle d w).2.1.accounts = w.accounts.save account := by
    rcases handle_of_saved saved with ⟨-, -, after⟩ | ⟨_, -, -, after⟩
    · rw [after, announced]
    · rw [after]
  constructor
  case skipped =>
    intro address skipped
    rcases handle_of_saved saved with ⟨-, told, -⟩ | ⟨_, -, failed, -⟩
    · cases told.symm.trans skipped
    · cases failed.symm.trans skipped
  case unsaved => intro e ended; simp only [saved, reduceCtorEq] at ended
  case saved => exact fun n account => upToSave_eq_saved_iff
  case unpublished =>
    intro m a e there fault
    simp only [saved, Handling.saved.injEq] at there
    obtain ⟨rfl, rfl⟩ := there
    rcases handle_of_saved saved with ⟨safe, -⟩ | ⟨f, broken, failed, after⟩
    · cases safe.symm.trans fault
    · obtain rfl := Option.some.inj (broken.symm.trans fault)
      exact ⟨failed, after, by rw [accounts, stored]⟩
  case failed =>
    intro e failed
    rcases handle_of_saved saved with ⟨-, told, -⟩ | ⟨f, fault, because, -⟩
    · cases told.symm.trans failed
    · obtain rfl := Except.error.inj (because.symm.trans failed)
      exact .inr ⟨n, account, by rw [saved], fault⟩
  case published =>
    intro m a there fault
    rcases handle_of_saved saved with ⟨-, update, -⟩ | ⟨_, broken, -⟩
    · exact ⟨_, update⟩
    · cases broken.symm.trans fault
  case updated =>
    intro u told
    rcases handle_of_saved saved with ⟨-, update, after⟩ | ⟨_, -, failed, -⟩
    · obtain rfl : BalanceUpdate.ofAccount account n.transaction = u :=
        Outcome.updated.inj (Except.ok.inj (update.symm.trans told))
      refine ⟨n, account, by rw [saved], tells, by rw [accounts, stored], rfl, rfl, rfl, rfl, ?_⟩
      rw [after]
      exact w.bus.carried_publish _
    · cases failed.symm.trans told
  case others =>
    intro key other
    rw [accounts]
    refine AccountStore.recordsAt_save_of_ne ?_ w.accounts
    rw [← own, Notification.lower_address tells]
    exact other n tells
  case holders => intro key; rw [accounts]; exact AccountStore.recordsAt_save_ne_nil_iff found same
  case logs =>
    rcases handle_of_saved saved with ⟨-, -, after⟩ | ⟨_, -, -, after⟩
    · rw [after, announced]
    · rw [after]

/-- Handling a delivery touches no logs. -/
theorem logs_handle (r : Reconciler) (d : Delivery) (w : World) :
    (r.handle d w).2.1.logs = w.logs := by
  rcases upToSave_cases r d w with
    ⟨o, other, ended⟩ | ⟨n, fresh, held, -, -, amounts, found, saved⟩
  · exact (atomic_of_done ended other).logs
  · exact (atomic_of_saved saved amounts.tells found rfl).logs

/-- **Handling a delivery is atomic up to its publish.** -/
theorem handle_atomic (r : Reconciler) (d : Delivery) (w : World) : r.Atomic d w := by
  rcases upToSave_cases r d w with
    ⟨o, other, ended⟩ | ⟨n, fresh, held, -, -, amounts, found, saved⟩
  · exact atomic_of_done ended other
  · exact atomic_of_saved saved amounts.tells found rfl

end Reconciler

namespace Announcement

/-- The account that the delivery is about. -/
def holder : String := "0x00000000000000000000000000000000000000a1"

/-- Another account of the store. -/
def neighbour : String := "0x00000000000000000000000000000000000000b2"

/-- The failure of the publish. -/
def closed : Failure := .of (.other "channel closed")

/-- A chain where every balance is the word 32. -/
def chain : Chain where
  balance _ := .ok 32
  call _ _ := .ok "0x0000000000000000000000000000000000000000000000000000000000000020"

/-- A reconciler whose publish may fail, and nothing else. -/
def reconciler (publish : Option Failure) : Reconciler :=
  ⟨⟨"app"⟩, .transfer, chain, { Faults.none with publish }, 7⟩

/-- A bus with a receiver that has got all before. -/
def world : World where
  logs := .memory .empty
  accounts := .table ((AccountTable.empty.save (.register neighbour)).save (.register holder))
  bus := ⟨16, [], 0, [some 0]⟩

/-- A transaction of the holder that moves one token. -/
def delivery : Delivery where
  routingKey := "app_transaction." ++ holder
  body := ["\x7b\"hash\":\"0x9\",\"logs\":[\x7b\"address\":\"0xC3\",\"topics\":[\"",
    EventSchema.transferTopic, "\"]\x7d]\x7d"].flatMap Utf8.encode

/-- What the delivery tells. -/
def notification : Notification :=
  ⟨holder, some ⟨"0x9", [⟨"0xC3", [EventSchema.transferTopic], "", none⟩], []⟩⟩

/-- The account after its refresh. -/
def refreshed : Account := ⟨holder, "32", [⟨"", "32", "0xc3", "32"⟩], true, some 7⟩

/-- What is told of the account. -/
def update : BalanceUpdate := ⟨holder, "32", [⟨"", "32", "0xc3", "32"⟩], notification.transaction⟩

theorem upToSave_delivery (publish : Option Failure) :
    ((reconciler publish).upToSave delivery world).1 = .saved notification refreshed := by
  have tells : Notification.ofDelivery (reconciler publish).routing delivery = .ok notification := by
    have own : Notification.ofDelivery ⟨"app"⟩ delivery = .ok notification := by decide +kernel
    exact own
  have reads : (readBalances (reconciler publish).compiler chain (reconciler publish).faults world
      holder notification.transaction).answer = .ok ⟨"32", [⟨"", "32", "0xc3", "32"⟩]⟩ := by
    have own : (readBalances .transfer chain Faults.none world holder
        notification.transaction).answer = .ok ⟨"32", [⟨"", "32", "0xc3", "32"⟩]⟩ := by
      decide +kernel
    exact own
  have found : world.accounts.get? holder = .ok (some (.register holder)) := by decide +kernel
  have merged : refreshed = (Account.register holder).merge ⟨"32", [⟨"", "32", "0xc3", "32"⟩]⟩ 7 := by
    decide +kernel
  exact Reconciler.upToSave_eq_saved_iff.mpr ⟨rfl, rfl, _, _, ⟨tells, reads⟩, found, merged⟩

/-- **The delivery tells its receiver the account that it stores,** and the account of the neighbour
stays as it was; if the publish fails, the account is stored all the same and nothing is told. -/
theorem stored_account_is_told_once :
    ((reconciler none).handle delivery world).1 = .ok (.updated update) ∧
      ((reconciler none).handle delivery world).2.1.accounts.get? holder = .ok (some refreshed) ∧
      ((reconciler none).handle delivery world).2.1.bus.total = 1 ∧
      ((reconciler none).handle delivery world).2.1.bus.kept =
        [⟨"app_balance.0x00000000000000000000000000000000000000a1", update⟩] ∧
      ((reconciler (some closed)).handle delivery world).1 = .error closed ∧
      ((reconciler (some closed)).handle delivery world).2.1.accounts.get? holder =
        .ok (some refreshed) ∧
      ((reconciler (some closed)).handle delivery world).2.1.bus = world.bus ∧
      ((reconciler (some closed)).handle delivery world).2.1.accounts.recordsAt neighbour =
        world.accounts.recordsAt neighbour := by
  have heard := Reconciler.handle_atomic (reconciler none) delivery world
  have unheard := Reconciler.handle_atomic (reconciler (some closed)) delivery world
  obtain ⟨u, ended⟩ := heard.published _ _ (upToSave_delivery none) rfl
  obtain ⟨n, stored, saved, tells, found, address, balance, tokens, transaction, carried⟩ :=
    heard.updated u ended
  obtain ⟨rfl, rfl⟩ := Handling.saved.inj ((upToSave_delivery none).symm.trans saved)
  obtain rfl : update = u := by
    obtain ⟨a, b, ts, t⟩ := u
    exact (BalanceUpdate.mk.injEq ..).mpr
      ⟨address.symm, balance.symm, tokens.symm, transaction.symm⟩
  obtain ⟨failed, after, kept⟩ := unheard.unpublished _ _ closed (upToSave_delivery _) rfl
  obtain ⟨total, count, forgotten, split⟩ := carried.heard ⟨0, List.mem_singleton_self _⟩
  refine ⟨ended, found, total, ?_, failed, kept, by rw [after], unheard.others neighbour ?_⟩
  · have before : world.bus.kept = [] := rfl
    have room : world.bus.capacity = 16 := rfl
    have key : (reconciler none).routing.service ++ "_balance." ++ refreshed.address =
        "app_balance.0x00000000000000000000000000000000000000a1" := by decide +kernel
    rw [before, List.nil_append, key] at split
    -- The bus keeps one message, so it has forgotten none.
    have whole : forgotten = [] := by
      have lengths := congrArg List.length split
      rw [List.length_append, count, before, room] at lengths
      exact List.eq_nil_of_length_eq_zero (by simpa using lengths.symm)
    rw [whole, List.nil_append] at split
    exact split.symm
  · intro n hn
    obtain rfl : notification = n := Except.ok.inj (tells.symm.trans hn)
    exact (by decide : neighbour ≠ holder)

end Announcement

end TransferLedger
