/-
# TransferLedger.Proofs.Reconcile.Convergence -- deliveries again and in another order

A delivery rewrites its whole account from what is stored and what the chain answers. The chain and
the logs being what they are, the same delivery again finds its own work. Deliveries about different
addresses write under different keys. And of two about one address each brings the last balance of its
tokens, whose order decides the order of the entries but not what they are, as far as the chain tells
the same about a token in whatever letter case it is named. Times are all that may differ otherwise.
-/

import TransferLedger.Proofs.Account.LastWins
import TransferLedger.Proofs.Account.Times
import TransferLedger.Proofs.Reconcile.Atomic
import TransferLedger.Proofs.Reconcile.Reading

namespace TransferLedger

open TransferLedger.Text TransferLedger.Fallible

namespace Reconciler

/-- The same reconciler at another time. -/
def atTime (r : Reconciler) (t : Int64) : Reconciler := { r with now := t }

/-- **A delivery refreshes an account:** it finds the account, reads its balances, and no call of the
account store fails. -/
structure Refreshes (r : Reconciler) (w : World) (d : Delivery) (n : Notification) (fresh : Balances)
    (held : Account) : Prop where
  gets : r.faults.getAccount = none
  saves : r.faults.saveAccount = none
  amounts : r.Amounts w d n fresh
  found : w.accounts.get? n.address = .ok (some held)

variable {r : Reconciler} {w v : World} {d e : Delivery} {n m : Notification} {fresh : Balances}
  {held : Account}

/-! ## What a delivery comes to -/

/-- How a delivery ends that has saved its account. -/
def afterSave (r : Reconciler) (n : Notification) (account : Account) : Except Failure Outcome :=
  unlessFaulty r.faults.publish (.ok (.updated (.ofAccount account n.transaction)))

/-- What is published with an outcome. -/
def messages (r : Reconciler) : Except Failure Outcome → List RoutedUpdate
  | .ok (.updated u) => [⟨r.routing.balance u.address, u⟩]
  | _ => []

/-- **A delivery that refreshes an account** saves it as it is at that time. -/
theorem handle_of_refreshes (h : r.Refreshes w d n fresh held) (t : Int64) :
    ((r.atTime t).handle d w).1 = r.afterSave n (held.merge fresh t) ∧
      ((r.atTime t).handle d w).2.1.accounts = w.accounts.save (held.merge fresh t) := by
  have amounts : (r.atTime t).Amounts w d n fresh := ⟨h.amounts.tells, h.amounts.reads⟩
  obtain ⟨asked, refreshed⟩ := step_found amounts rfl held
  have saved : (r.atTime t).upToSave d w = (.saved n (held.merge fresh t),
      { w with accounts := w.accounts.save (held.merge fresh t) }) := by
    have gets : (r.atTime t).faults.getAccount = none := h.gets
    have saves : (r.atTime t).faults.saveAccount = none := h.saves
    simp only [upToSave, steps, step_arrived gets h.amounts.tells h.found, refreshed,
      step_refreshed saves]
    rfl
  rcases handle_of_saved saved with ⟨safe, told, after⟩ | ⟨e, fault, failed, after⟩
  · have publishes : r.faults.publish = none := safe
    exact ⟨by rw [told, afterSave, publishes]; rfl, by rw [after]; rfl⟩
  · have publishes : r.faults.publish = some e := fault
    exact ⟨by rw [failed, afterSave, publishes]; rfl, by rw [after]⟩

/-- A delivery that is over as soon as its account is looked up succeeds only if there is none. -/
theorem missing_of_lookUp {o : Except Failure Outcome} (h : r.lookUp d w = .done o)
    (ok : o.isOk = true) : ∃ n, Notification.ofDelivery r.routing d = .ok n ∧
      w.accounts.get? n.address = .ok none := by
  unfold lookUp at h
  split at h
  case h_1 => cases h; cases ok
  case h_2 n tells =>
    split at h
    case h_1 => cases h; cases ok
    case h_2 looked => exact ⟨n, tells, (unlessFaulty_eq_ok.mp looked).2⟩
    case h_3 => cases h

/-- **A delivery that refreshes no account** comes to the same at any time, and nothing changes. It
succeeds only if there is no account. -/
theorem handle_of_unrefreshed (unrefreshed : ¬∃ n fresh held, r.Refreshes w d n fresh held) :
    ∃ o : Except Failure Outcome,
      (o.isOk = true → ∃ n, Notification.ofDelivery r.routing d = .ok n ∧
        w.accounts.get? n.address = .ok none) ∧
      ∀ t, ((r.atTime t).handle d w).1 = o ∧ ((r.atTime t).handle d w).2.1 = w := by
  -- The time is told by nothing but a refreshed account, so up to there it does not matter.
  rcases step_arrived_cases r d w with ⟨n, held, tells, gets, found, arrived⟩ | ⟨o, other, ended⟩
  case inr =>
    refine ⟨o, missing_of_lookUp (congrArg (·.1) ended), fun t => handle_of_done ?_⟩
    have ended : (r.atTime t).step (.arrived d) w = (.done o, w, []) := ended
    simp only [upToSave, steps, ended, step_done]
  have arrived (t : Int64) : (r.atTime t).step (.arrived d) w = (.found n held, w, []) := arrived
  cases reads : (readBalances r.compiler r.chain r.faults w n.address n.transaction).answer with
  | error e =>
    refine ⟨.error (e.within ("Balance aggregation failed for " ++ n.address)), by rintro ⟨⟩,
      fun t => handle_of_done ?_⟩
    have answer : (readBalances (r.atTime t).compiler (r.atTime t).chain (r.atTime t).faults w
      n.address n.transaction).answer = .error e := reads
    have ended : ((r.atTime t).step (.found n held) w).1 =
        .done (.error (e.within ("Balance aggregation failed for " ++ n.address))) := by
      simp only [step, refresh, Inquiry.within, answer, mapError_error]
    have after : ((r.atTime t).step (.found n held) w).2.1 = w := rfl
    simp only [upToSave, steps, arrived, ended, after, step_done]
  | ok fresh =>
    cases saves : r.faults.saveAccount with
    | none => exact absurd ⟨n, fresh, held, gets, saves, ⟨tells, reads⟩, found⟩ unrefreshed
    | some e =>
      refine ⟨.error e, by rintro ⟨⟩, fun t => handle_of_done ?_⟩
      have amounts : (r.atTime t).Amounts w d n fresh := ⟨tells, reads⟩
      obtain ⟨asked, refreshed⟩ := step_found amounts rfl held
      rcases step_refreshed_cases (r.atTime t) n (held.merge fresh (r.atTime t).now) w with
        ⟨safe, -⟩ | ⟨f, fault, ended⟩
      · cases saves.symm.trans safe
      · obtain rfl : f = e := Option.some.inj (fault.symm.trans saves)
        simp only [upToSave, steps, arrived, refreshed, ended]

/-- **What is published** is told by the outcome. -/
theorem bus_handle (r : Reconciler) (d : Delivery) (w : World) :
    (r.handle d w).2.1.bus = (r.messages (r.handle d w).1).foldl Bus.publish w.bus := by
  rcases upToSave_cases r d w with
    ⟨o, other, ended⟩ | ⟨n, fresh, held, -, -, amounts, found, saved⟩
  · obtain ⟨outcome, after⟩ := handle_of_done ended
    rw [outcome, after]
    match o with
    | .error _ | .ok (.skipped _) => rfl
    | .ok (.updated u) => exact absurd rfl (other u)
  · rcases handle_of_saved saved with ⟨-, told, after⟩ | ⟨_, -, failed, after⟩
    · rw [told, after]
      rfl
    · rw [failed, after]
      rfl

/-- A delivery that refreshes an account does so wherever the logs are the same and the account is
found as well. -/
theorem Refreshes.elsewhere {there : Account} (h : r.Refreshes w d n fresh held)
    (logs : v.logs = w.logs) (found : v.accounts.get? n.address = .ok (some there)) :
    r.Refreshes v d n fresh there where
  gets := h.gets
  saves := h.saves
  amounts := ⟨h.amounts.tells, by rw [readBalances_congr logs]; exact h.amounts.reads⟩
  found := found

theorem Refreshes.lower_address (h : r.Refreshes w d n fresh held) :
    lower held.address = n.address := by
  rw [AccountStore.lower_address_of_get? h.found, Notification.lower_address h.amounts.tells]

/-- A delivery finds its account again as it has saved it. -/
theorem Refreshes.get?_save (h : r.Refreshes w d n fresh held) (t : Int64) :
    (w.accounts.save (held.merge fresh t)).get? n.address = .ok (some (held.merge fresh t)) := by
  have own : lower n.address = lower (held.merge fresh t).address :=
    (AccountStore.lower_address_of_get? h.found).symm
  have same : (held.merge fresh t).address = held.address := rfl
  rw [AccountStore.get?_save own, AccountStore.kept_of_get? h.found same]

/-! ## What a delivery writes -/

/-- **What a delivery writes in a world:** an account at each time, or nothing. It writes the same
wherever the logs are the same and its own account is found to be the same. -/
structure Writes (r : Reconciler) (d : Delivery) (w : World) (change : Option (Int64 → Account)) :
    Prop where
  own : ∀ write, change = some write → ∃ n, Notification.ofDelivery r.routing d = .ok n ∧
    ∀ t, lower (write t).address = n.address
  times : ∀ write, change = some write → ∀ t t', (write t).untimed = (write t').untimed
  accounts : ∀ v : World, v.logs = w.logs →
    (∀ n, Notification.ofDelivery r.routing d = .ok n →
      v.accounts.get? n.address = w.accounts.get? n.address) →
    ∀ t, ((r.atTime t).handle d v).2.1.accounts =
      change.elim v.accounts fun write => v.accounts.save (write t)

/-- Every delivery writes its own account or nothing. -/
theorem exists_writes (r : Reconciler) (d : Delivery) (w : World) :
    ∃ change, r.Writes d w change := by
  by_cases refreshes : ∃ n fresh held, r.Refreshes w d n fresh held
  · obtain ⟨n, fresh, held, h⟩ := refreshes
    refine ⟨some (held.merge fresh), ?_, ?_, ?_⟩
    · rintro _ ⟨⟩
      exact ⟨n, h.amounts.tells, fun _ => h.lower_address⟩
    · rintro _ ⟨⟩ t t'
      rfl
    · intro v logs same t
      exact (handle_of_refreshes (h.elsewhere logs ((same n h.amounts.tells).trans h.found)) t).2
  · refine ⟨none, nofun, nofun, fun v logs same t => ?_⟩
    have unrefreshed : ¬∃ n fresh held, r.Refreshes v d n fresh held := by
      rintro ⟨n, fresh, held, h⟩
      have found := (same n h.amounts.tells).symm.trans h.found
      exact refreshes ⟨n, fresh, held, h.elsewhere logs.symm found⟩
    obtain ⟨o, -, ended⟩ := handle_of_unrefreshed unrefreshed
    rw [(ended t).2]
    rfl

/-- What comes of a delivery that is handled after another one, each at its time. -/
def handleAfter (r : Reconciler) (first second : Int64 × Delivery) (w : World) :
    Except Failure Outcome × World × List Question :=
  (r.atTime second.1).handle second.2 ((r.atTime first.1).handle first.2 w).2.1

/-! ## Again -/

/-- The time is not told. -/
theorem outcome_atTime (r : Reconciler) (d : Delivery) (w : World) (t t' : Int64) :
    ((r.atTime t).handle d w).1 = ((r.atTime t').handle d w).1 := by
  by_cases refreshes : ∃ n fresh held, r.Refreshes w d n fresh held
  · obtain ⟨n, fresh, held, h⟩ := refreshes
    rw [(handle_of_refreshes h t).1, (handle_of_refreshes h t').1]
    rfl
  · obtain ⟨o, -, ended⟩ := handle_of_unrefreshed refreshes
    rw [(ended t).1, (ended t').1]

/-- A delivery that is handled at two times leaves what it leaves at the first, up to the time. -/
theorem sameButTimes_atTime (r : Reconciler) (d : Delivery) (w : World) (t t' : Int64) :
    ((r.atTime t).handle d w).2.1.accounts.SameButTimes ((r.atTime t').handle d w).2.1.accounts := by
  obtain ⟨change, writes⟩ := exists_writes r d w
  rw [writes.accounts w rfl (fun _ _ => rfl), writes.accounts w rfl fun _ _ => rfl]
  cases change with
  | none => exact .refl _
  | some write => exact AccountStore.sameButTimes_save (writes.times write rfl t t') _

/-- **The same delivery again** comes to the same and leaves the accounts as if it came only then. -/
theorem handle_again (r : Reconciler) (d : Delivery) (w : World) (t₁ t₂ : Int64) :
    (r.handleAfter (t₁, d) (t₂, d) w).1 = ((r.atTime t₂).handle d w).1 ∧
      (r.handleAfter (t₁, d) (t₂, d) w).2.1.accounts = ((r.atTime t₂).handle d w).2.1.accounts := by
  unfold handleAfter
  by_cases refreshes : ∃ n fresh held, r.Refreshes w d n fresh held
  · obtain ⟨n, fresh, held, h⟩ := refreshes
    obtain ⟨-, first⟩ := handle_of_refreshes h t₁
    have again : r.Refreshes ((r.atTime t₁).handle d w).2.1 d n fresh (held.merge fresh t₁) :=
      h.elsewhere ((r.atTime t₁).logs_handle d w) (by rw [first, h.get?_save])
    have same : lower (held.merge fresh t₁).address = lower (held.merge fresh t₂).address := rfl
    have saved := AccountStore.save_save same w.accounts
    rw [(handle_of_refreshes again t₂).1, (handle_of_refreshes again t₂).2, first,
      (handle_of_refreshes h t₂).1, (handle_of_refreshes h t₂).2, Account.merge_merge, saved]
    exact ⟨rfl, rfl⟩
  · obtain ⟨o, -, ended⟩ := handle_of_unrefreshed refreshes
    rw [(ended t₁).2]
    exact ⟨rfl, rfl⟩

/-! ## Under different addresses -/

/-- A delivery leaves the account of another address as it is found. -/
theorem get?_handle_of_ne {address : String}
    (other : ∀ n, Notification.ofDelivery r.routing d = .ok n → lower address ≠ n.address)
    (t : Int64) :
    ((r.atTime t).handle d w).2.1.accounts.get? address = w.accounts.get? address := by
  by_cases refreshes : ∃ n fresh held, r.Refreshes w d n fresh held
  · obtain ⟨n, fresh, held, h⟩ := refreshes
    rw [(handle_of_refreshes h t).2]
    refine AccountStore.get?_save_of_ne ?_ w.accounts
    rw [Account.address_merge, h.lower_address]
    exact other n h.amounts.tells
  · obtain ⟨o, -, ended⟩ := handle_of_unrefreshed refreshes
    rw [(ended t).2]

/-- **Deliveries under different addresses** may change places. -/
theorem accounts_swapped (apart : ∀ n m, Notification.ofDelivery r.routing d = .ok n →
      Notification.ofDelivery r.routing e = .ok m → n.address ≠ m.address) (w : World)
    (t₁ t₂ t₃ t₄ : Int64) :
    (r.handleAfter (t₁, d) (t₂, e) w).2.1.accounts.SameButTimes
      (r.handleAfter (t₃, e) (t₄, d) w).2.1.accounts := by
  unfold handleAfter
  obtain ⟨change, writes⟩ := exists_writes r d w
  obtain ⟨change', writes'⟩ := exists_writes r e w
  have second := writes'.accounts ((r.atTime t₁).handle d w).2.1 ((r.atTime t₁).logs_handle d w)
    (fun m tells => get?_handle_of_ne (fun n tells' same => apart n m tells' tells
      (same.symm.trans (Notification.lower_address tells))) t₁) t₂
  have second' := writes.accounts ((r.atTime t₃).handle e w).2.1 ((r.atTime t₃).logs_handle e w)
    (fun n tells => get?_handle_of_ne (fun m tells' same => apart n m tells tells'
      ((Notification.lower_address tells).symm.trans same)) t₃) t₄
  rw [second, second', writes.accounts w rfl (fun _ _ => rfl),
    writes'.accounts w rfl fun _ _ => rfl]
  -- Each of them writes one account or none, and the same in either order, up to the time.
  cases change with
  | none =>
    cases change' with
    | none => exact .refl _
    | some write' => exact AccountStore.sameButTimes_save (writes'.times write' rfl t₂ t₃) _
  | some write =>
    cases change' with
    | none => exact AccountStore.sameButTimes_save (writes.times write rfl t₁ t₄) _
    | some write' =>
      obtain ⟨n, tells, own⟩ := writes.own write rfl
      obtain ⟨m, tells', own'⟩ := writes'.own write' rfl
      have ne : lower (write t₁).address ≠ lower (write' t₂).address := by
        rw [own, own']
        exact apart n m tells tells'
      exact AccountStore.sameButTimes_save_comm ne (writes.times write rfl t₁ t₄)
        (writes'.times write' rfl t₂ t₃) _

/-! ## Under one address -/

/-- A delivery that succeeds finds no account and changes nothing, or it refreshes one and nothing
fails. -/
theorem cases_of_isOk (tells : Notification.ofDelivery r.routing d = .ok n) {t : Int64}
    (ok : ((r.atTime t).handle d w).1.isOk = true) :
    (w.accounts.get? n.address = .ok none ∧ ∀ t', ((r.atTime t').handle d w).1.isOk = true ∧
      ((r.atTime t').handle d w).2.1 = w) ∨
    r.faults.publish = none ∧ ∃ fresh held, r.Refreshes w d n fresh held := by
  by_cases refreshes : ∃ n fresh held, r.Refreshes w d n fresh held
  · obtain ⟨m, fresh, held, h⟩ := refreshes
    obtain rfl : n = m := Except.ok.inj (tells.symm.trans h.amounts.tells)
    rw [(handle_of_refreshes h t).1, afterSave] at ok
    cases publishes : r.faults.publish with
    | none => exact .inr ⟨rfl, fresh, held, h⟩
    | some e => rw [publishes] at ok; cases ok
  · obtain ⟨o, missing, ended⟩ := handle_of_unrefreshed refreshes
    rw [(ended t).1] at ok
    obtain ⟨m, tells', absent⟩ := missing ok
    obtain rfl : n = m := Except.ok.inj (tells.symm.trans tells')
    exact .inl ⟨absent, fun t' => ⟨by rw [(ended t').1, ok], (ended t').2⟩⟩

theorem Refreshes.isOk (h : r.Refreshes w d n fresh held) (publishes : r.faults.publish = none)
    (t : Int64) : ((r.atTime t).handle d w).1.isOk = true := by
  rw [(handle_of_refreshes h t).1, afterSave, publishes]
  rfl

/-- **Two deliveries about one address** bring the same native balance, and balances of tokens that
are told apart by their address. -/
theorem Refreshes.agree {fresh' : Balances} {held' : Account} (byAddress : r.chain.ByAddress)
    (h : r.Refreshes w d n fresh held) (h' : r.Refreshes v e m fresh' held')
    (same : n.address = m.address) :
    fresh.balance = fresh'.balance ∧ ∀ a ∈ fresh.tokens ++ fresh'.tokens,
      ∀ b ∈ fresh.tokens ++ fresh'.tokens, lower a.address = lower b.address → a = b := by
  obtain ⟨_, native, -, -, read, asked, balance⟩ := readBalances_eq_ok h.amounts.reads
  obtain ⟨_, native', -, -, read', asked', balance'⟩ := readBalances_eq_ok h'.amounts.reads
  rw [← same] at read' asked'
  have each : ∀ a ∈ fresh.tokens ++ fresh'.tokens,
      ∃ token, (readToken r.chain n.address token).answer = .ok a := by
    intro a there
    rcases List.mem_append.mp there with first | second
    · exact exists_token_of_mem read first
    · exact exists_token_of_mem read' second
  constructor
  · rw [balance, balance', Except.ok.inj (asked.symm.trans asked')]
  · intro a there b there' addresses
    exact byAddress.eq_of_readToken (each a there) (each b there') addresses

/-- **Deliveries under one address that succeed** succeed in the other order as well, and then the
account holds the same. -/
theorem holdings_swapped (byAddress : r.chain.ByAddress)
    (tells : Notification.ofDelivery r.routing d = .ok n)
    (tells' : Notification.ofDelivery r.routing e = .ok m) (same : n.address = m.address)
    (t₁ t₂ t₃ t₄ : Int64) (first : ((r.atTime t₁).handle d w).1.isOk = true)
    (second : (r.handleAfter (t₁, d) (t₂, e) w).1.isOk = true) :
    ((r.atTime t₃).handle e w).1.isOk = true ∧ (r.handleAfter (t₃, e) (t₄, d) w).1.isOk = true ∧
      ∃ found found',
        (r.handleAfter (t₁, d) (t₂, e) w).2.1.accounts.get? n.address = .ok found ∧
        (r.handleAfter (t₃, e) (t₄, d) w).2.1.accounts.get? n.address = .ok found' ∧
        Option.Rel Account.SameHoldings found found' := by
  unfold handleAfter at second ⊢
  rcases cases_of_isOk tells first with ⟨absent, skipped⟩ | ⟨publishes, fresh, held, h⟩
  · rw [(skipped t₁).2] at second ⊢
    rcases cases_of_isOk tells' second with ⟨-, skipped'⟩ | ⟨-, _, _, h'⟩
    · rw [(skipped' t₂).2, (skipped' t₃).2, (skipped t₄).2]
      exact ⟨(skipped' t₃).1, (skipped t₄).1, none, none, absent, absent, .none⟩
    · cases absent.symm.trans (same ▸ h'.found)
  · have stored := h.get?_save t₁
    rw [← (handle_of_refreshes h t₁).2] at stored
    rcases cases_of_isOk tells' second with ⟨absent, -⟩ | ⟨-, fresh', _, h'⟩
    · cases stored.symm.trans (same ▸ absent)
    · obtain rfl := Option.some.inj (Except.ok.inj ((same ▸ h'.found).symm.trans stored))
      -- The other one finds the account that was there, and this one what the other has saved.
      have early : r.Refreshes w e m fresh' held :=
        h'.elsewhere ((r.atTime t₁).logs_handle d w).symm (same ▸ h.found)
      have stored' := early.get?_save t₃
      rw [← (handle_of_refreshes early t₃).2, ← same] at stored'
      have late := h.elsewhere ((r.atTime t₃).logs_handle e w) stored'
      obtain ⟨balance, one⟩ := h.agree byAddress early same
      have found : ((r.atTime t₂).handle e ((r.atTime t₁).handle d w).2.1).2.1.accounts.get?
          n.address = .ok (some ((held.merge fresh t₁).merge fresh' t₂)) := by
        rw [(handle_of_refreshes h' t₂).2, same]
        exact h'.get?_save t₂
      have found' : ((r.atTime t₄).handle d ((r.atTime t₃).handle e w).2.1).2.1.accounts.get?
          n.address = .ok (some ((held.merge fresh' t₃).merge fresh t₄)) := by
        rw [(handle_of_refreshes late t₄).2]
        exact late.get?_save t₄
      exact ⟨early.isOk publishes t₃, late.isOk publishes t₄, _, _, found, found',
        .some (Account.sameHoldings_merge balance one held t₁ t₂ t₃ t₄)⟩

/-! ## The main theorem -/

/-- **Deliveries converge.** The same delivery again leaves the same accounts up to their times, comes
to the same, and publishes the same once more. Two deliveries under different addresses leave the same
accounts in either order, up to their times. Two under one address that succeed do so in either order
and leave an account that holds the same. -/
theorem deliveries_converge (r : Reconciler) (byAddress : r.chain.ByAddress) (w : World)
    (t₁ t₂ t₃ t₄ : Int64) :
    (∀ d, let once := (r.atTime t₃).handle d w
      let again := r.handleAfter (t₁, d) (t₂, d) w
      again.2.1.accounts.SameButTimes once.2.1.accounts ∧
        (∀ address, (again.2.1.accounts.get? address).map (Option.map Account.untimed) =
          (once.2.1.accounts.get? address).map (Option.map Account.untimed)) ∧
        again.1 = once.1 ∧ once.2.1.bus = (r.messages once.1).foldl Bus.publish w.bus ∧
        again.2.1.bus = (r.messages once.1).foldl Bus.publish
          ((r.messages once.1).foldl Bus.publish w.bus)) ∧
      (∀ d e, (∀ n m, Notification.ofDelivery r.routing d = .ok n →
          Notification.ofDelivery r.routing e = .ok m → n.address ≠ m.address) →
        (r.handleAfter (t₁, d) (t₂, e) w).2.1.accounts.SameButTimes
          (r.handleAfter (t₃, e) (t₄, d) w).2.1.accounts) ∧
      (∀ d e n m, Notification.ofDelivery r.routing d = .ok n →
        Notification.ofDelivery r.routing e = .ok m → n.address = m.address →
        ((r.atTime t₁).handle d w).1.isOk = true → (r.handleAfter (t₁, d) (t₂, e) w).1.isOk = true →
        ((r.atTime t₃).handle e w).1.isOk = true ∧ (r.handleAfter (t₃, e) (t₄, d) w).1.isOk = true ∧
        ∃ found found',
          (r.handleAfter (t₁, d) (t₂, e) w).2.1.accounts.get? n.address = .ok found ∧
          (r.handleAfter (t₃, e) (t₄, d) w).2.1.accounts.get? n.address = .ok found' ∧
          Option.Rel Account.SameHoldings found found') := by
  refine ⟨fun d => ?_, fun d e apart => accounts_swapped apart w t₁ t₂ t₃ t₄,
    fun d e n m tells tells' same => holdings_swapped byAddress tells tells' same t₁ t₂ t₃ t₄⟩
  obtain ⟨outcome, accounts⟩ := handle_again r d w t₁ t₂
  have same : (r.handleAfter (t₁, d) (t₂, d) w).2.1.accounts.SameButTimes
      ((r.atTime t₃).handle d w).2.1.accounts := accounts ▸ sameButTimes_atTime r d w t₂ t₃
  have told := outcome.trans (outcome_atTime r d w t₂ t₃)
  refine ⟨same, same.get?, told, bus_handle (r.atTime t₃) d w, ?_⟩
  calc (r.handleAfter (t₁, d) (t₂, d) w).2.1.bus
    _ = (r.messages (r.handleAfter (t₁, d) (t₂, d) w).1).foldl Bus.publish
        ((r.atTime t₁).handle d w).2.1.bus := bus_handle (r.atTime t₂) d _
    _ = (r.messages ((r.atTime t₃).handle d w).1).foldl Bus.publish
        ((r.messages ((r.atTime t₁).handle d w).1).foldl Bus.publish w.bus) := by
      rw [told, bus_handle (r.atTime t₁) d w]
      rfl
    _ = _ := by rw [outcome_atTime r d w t₁ t₃]

end Reconciler

/-! ## Two spellings of a token -/

namespace Respelled

/-- The account that both deliveries are about. -/
def holder : String := "0x00000000000000000000000000000000000000a1"

/-- A chain where the holder has some of one token and none of any other. -/
def chain : Chain where
  balance _ := .ok 32
  call contract _ :=
    .ok (if sameIgnoringCase contract "0xC3" then
      "0x0000000000000000000000000000000000000000000000000000000000000020" else "0x")

/-- Nothing fails. -/
def reconciler : Reconciler := ⟨⟨"app"⟩, .transfer, chain, .none, 0⟩

theorem byAddress : reconciler.chain.ByAddress where
  balance _ _ _ := rfl
  call a b same := by
    have spelling : sameIgnoringCase a "0xC3" = sameIgnoringCase b "0xC3" := by
      rw [Bool.eq_iff_iff, sameIgnoringCase_iff, sameIgnoringCase_iff, same]
    funext data
    simp only [reconciler, chain, spelling]

/-- A transaction of the holder that moves a token. -/
def delivery (token : String) : Delivery where
  routingKey := "app_user.created"
  body := ["\x7b\"address\":\"", holder, "\",\"hash\":\"0x9\",", "\"logs\":[", "\x7b\"address\":\"",
    token, "\",\"topics\":[\"", EventSchema.transferTopic, "\"]\x7d]\x7d"].flatMap Utf8.encode

/-- The same transaction as it is read. -/
def transaction (token : String) : Transaction :=
  ⟨"0x9", [⟨token, [EventSchema.transferTopic], "", none⟩], [("address", .str holder)]⟩

/-- The account before, with an entry under a third spelling. -/
def held : Account := ⟨holder, "0", [⟨"C", "0", "0Xc3", "5"⟩, ⟨"B", "0", "0xb2", "6"⟩], true, none⟩

def world : World := ⟨.memory .empty, .memory (AccountMap.empty.save held), ⟨16, [], 0, []⟩⟩

theorem refreshes : ∀ token ∈ ["0xC3", "0xc3"], reconciler.Refreshes world (delivery token)
    ⟨holder, some (transaction token)⟩ ⟨"32", [⟨"", "32", "0xc3", "32"⟩]⟩ held := by
  have amounts : ∀ token ∈ ["0xC3", "0xc3"],
      Notification.ofDelivery reconciler.routing (delivery token) =
        .ok ⟨holder, some (transaction token)⟩ ∧
      (readBalances reconciler.compiler reconciler.chain reconciler.faults world holder
        (some (transaction token))).answer = .ok ⟨"32", [⟨"", "32", "0xc3", "32"⟩]⟩ := by
    decide +kernel
  intro token either
  obtain ⟨tells, reads⟩ := amounts token either
  exact ⟨rfl, rfl, ⟨tells, reads⟩, AccountStore.get?_save rfl (.memory .empty)⟩

theorem spellings_agree :
    ∃ found found',
      (reconciler.handleAfter (1, delivery "0xC3") (2, delivery "0xc3") world).2.1.accounts.get?
        holder = .ok found ∧
      (reconciler.handleAfter (3, delivery "0xc3") (4, delivery "0xC3") world).2.1.accounts.get?
        holder = .ok found' ∧
      Option.Rel Account.SameHoldings found found' := by
  have first := refreshes "0xC3" (by simp)
  have second := refreshes "0xc3" (by simp)
  have publishes : reconciler.faults.publish = none := rfl
  have stored := first.get?_save 1
  rw [← (Reconciler.handle_of_refreshes first 1).2] at stored
  have late := second.elsewhere ((reconciler.atTime 1).logs_handle _ world) stored
  have both : (reconciler.handleAfter (1, delivery "0xC3") (2, delivery "0xc3") world).1.isOk =
      true := by
    rw [Reconciler.handleAfter, late.isOk publishes 2]
  obtain ⟨-, -, converge⟩ := Reconciler.deliveries_converge reconciler byAddress world 1 2 3 4
  obtain ⟨-, -, agree⟩ := converge (delivery "0xC3") (delivery "0xc3") _ _ first.amounts.tells
    second.amounts.tells rfl (first.isOk publishes 1) both
  exact agree

end Respelled

end TransferLedger
