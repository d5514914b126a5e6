/-
# TransferLedger.Proofs.Service.Registrations -- registering an account that there is already

A registration looks its account up and saves a new one only if there was none. Nothing keeps the
store as it was in between, so what it saves may meet an account after all. But no account is ever
removed, and a delivery saves none but one that it has found; so only another registration of the same
address can have saved it meanwhile, and that one has overlapped with this one. A registration that
looks up later finds the account, and leaves it alone.
-/

import TransferLedger.Proofs.Account.Stored
import TransferLedger.Proofs.Service.Deliveries

namespace TransferLedger

open TransferLedger.Text

/-! ## One step of one task -/

/-- A delivery in progress whose account is stored, or that has none in hand. -/
def Handling.Held (store : AccountStore) (h : Handling) : Prop :=
  ∀ account, h.account? = some account → store.Holds account.address

/-- **A delivery adds no account to the store and removes none.** -/
theorem Reconciler.holds_step (r : Reconciler) {h : Handling} {w : World}
    (inHand : h.Held w.accounts) :
    (r.step h w).1.Held (r.step h w).2.1.accounts ∧
      ∀ address, (r.step h w).2.1.accounts.Holds address ↔ w.accounts.Holds address := by
  have does := r.stepped h w
  generalize r.step h w = next at does ⊢
  cases does with
  | found tells safe held =>
    refine ⟨?_, fun _ => Iff.rfl⟩
    rintro _ ⟨⟩
    exact AccountStore.holds_of_get? held
  | @refreshed n account =>
    refine ⟨?_, fun _ => Iff.rfl⟩
    rintro _ ⟨⟩
    exact inHand account rfl
  | @saved n account =>
    -- the account that is saved is stored already
    have held : w.accounts.Holds account.address := inHand account rfl
    refine ⟨?_, fun address => ?_⟩
    · rintro _ ⟨⟩
      exact (w.accounts.holds_save account account.address).mpr (.inl rfl)
    · rw [AccountStore.holds_save]
      exact or_iff_right_of_imp fun own => held.congr own.symm
  | dropped | unread | unsaved | told | untold | done => exact ⟨nofun, fun _ => Iff.rfl⟩

namespace Registration

/-- The address that a registration has found no account of. -/
def vacant? : Registration → Option String
  | missing address => some address
  | created account => some account.address
  | arrived _ | existing _ | failed _ => none

end Registration

namespace Crew

variable {r : Reconciler} {c c' : Crew}

/-! ## What the calls tell -/

/-- The stage of the registration of a number. -/
def Stands (c : Crew) (k : Nat) (g : Registration) : Prop := c.tasks[k]? = some (.registration g)

/-- **What the calls of a crew tell about its registrations.** -/
structure Registry (c : Crew) : Prop where
  /-- Every call is one of a task. -/
  numbered : ∀ call ∈ c.calls, call.1 < c.tasks.length
  /-- What a delivery has in hand is stored. -/
  inHand : ∀ h, .delivery h ∈ c.tasks → h.Held c.world.accounts
  /-- What has found no account has looked it up. -/
  looked : ∀ {k g a}, c.Stands k g → g.vacant? = some a → (k, Call.lookUp) ∈ c.calls
  /-- A new account has been saved, and is stored from then on. -/
  saved : ∀ {k account}, c.Stands k (.created account) →
    (k, Call.save) ∈ c.calls ∧ c.world.accounts.Holds account.address
  /-- Only new accounts have been saved. -/
  new : ∀ {k g}, c.Stands k g → (k, Call.save) ∈ c.calls → ∃ address, g = .created (.register address)
  /-- What is saved comes after the look-up of any other registration that has not found it. -/
  order : ∀ {k l g a account}, k ≠ l → c.Stands k g → g.vacant? = some a →
    c.Stands l (.created account) → lower account.address = lower a →
    [(k, Call.lookUp), (l, Call.save)].Sublist c.calls
  /-- What is stored and was not found has been saved by another registration. -/
  cause : ∀ {k a}, c.Stands k (.missing a) → c.world.accounts.Holds a →
    ∃ l account, c.Stands l (.created account) ∧ lower account.address = lower a

theorem registry_idle (w : World) : (idle w).Registry where
  numbered := fun _ mem => nomatch mem
  inHand := fun _ mem => nomatch mem
  looked := nofun
  saved := nofun
  new := nofun
  order := fun _ stands => nomatch stands
  cause := nofun

/-- **A step that neither finds an account missing nor saves a new one.** The registrations stand as
they did, or they have neither found an account missing nor saved one. -/
structure Quiet (c c' : Crew) : Prop where
  calls : c.calls.Sublist c'.calls
  stands : ∀ {k g}, c'.Stands k g →
    (c.Stands k g ∧ ((k, Call.save) ∈ c'.calls → (k, Call.save) ∈ c.calls)) ∨
      (g.vacant? = none ∧ (k, Call.save) ∉ c'.calls)
  created : ∀ {k account}, c.Stands k (.created account) → c'.Stands k (.created account)
  holds : ∀ address, c'.world.accounts.Holds address ↔ c.world.accounts.Holds address

theorem Registry.quiet (h : c.Registry) (quiet : c.Quiet c')
    (numbered : ∀ call ∈ c'.calls, call.1 < c'.tasks.length)
    (inHand : ∀ h, .delivery h ∈ c'.tasks → h.Held c'.world.accounts) : c'.Registry := by
  have old {k : Nat} {g : Registration} {a : String} (stands : c'.Stands k g)
      (vacant : g.vacant? = some a) : c.Stands k g := by
    rcases quiet.stands stands with ⟨before, -⟩ | ⟨none, -⟩
    · exact before
    · exact nomatch none.symm.trans vacant
  refine ⟨numbered, inHand, ?looked, ?saved, ?new, ?order, ?cause⟩
  case looked =>
    intro k g a stands vacant
    exact quiet.calls.subset (h.looked (old stands vacant) vacant)
  case saved =>
    intro k account stands
    obtain ⟨saved, holds⟩ := h.saved (old stands rfl)
    exact ⟨quiet.calls.subset saved, (quiet.holds _).mpr holds⟩
  case new =>
    intro k g stands saved
    rcases quiet.stands stands with ⟨before, silent⟩ | ⟨-, silent⟩
    · exact h.new before (silent saved)
    · exact absurd saved silent
  case order =>
    intro k l g a account apart stands vacant created same
    exact (h.order apart (old stands vacant) vacant (old created rfl) same).trans quiet.calls
  case cause =>
    intro k a stands holds
    obtain ⟨l, account, created, same⟩ := h.cause (old stands rfl) ((quiet.holds a).mp holds)
    exact ⟨l, account, quiet.created created, same⟩

/-! ## A task more -/

theorem Registry.join (h : c.Registry) {t : CrewTask}
    (new : (∃ d, t = .delivery (.arrived d)) ∨ ∃ a, t = .registration (.arrived a)) :
    (c.join t).Registry := by
  have numbered : ∀ call ∈ (c.join t).calls, call.1 < (c.join t).tasks.length := by
    intro call mem
    rw [Crew.join, List.length_append]
    exact Nat.lt_add_right _ (h.numbered call mem)
  refine h.quiet ⟨List.Sublist.refl _, ?_, ?_, fun _ => Iff.rfl⟩ numbered ?_
  · intro k g stands
    by_cases old : k < c.tasks.length
    · left
      rw [Stands, Crew.join, List.getElem?_append_left old] at stands
      exact ⟨stands, id⟩
    · -- a task that joins has made no call
      right
      rw [Stands, Crew.join, List.getElem?_append_right (Nat.le_of_not_lt old),
        List.getElem?_singleton] at stands
      refine ⟨?_, fun saved => old (h.numbered _ saved)⟩
      split at stands
      case isTrue =>
        rcases new with ⟨d, rfl⟩ | ⟨a, rfl⟩ <;> cases stands
        rfl
      case isFalse => cases stands
  · intro k account stands
    have bound : k < c.tasks.length := (List.getElem?_eq_some_iff.mp stands).1
    rwa [Stands, Crew.join, List.getElem?_append_left bound]
  · intro g mem
    rcases List.mem_append.mp mem with old | last
    · exact h.inHand g old
    · rcases new with ⟨d, rfl⟩ | ⟨a, rfl⟩
      · cases List.mem_singleton.mp last
        rintro _ ⟨⟩
      · cases List.mem_singleton.mp last

/-! ## A step of a task -/

theorem stands_take {k : Nat} {t : CrewTask} (held : c.tasks[k]? = some t) {turn : Turn} {j : Nat}
    {g : Registration} (h : (c.take k turn).Stands j g) :
    (j = k ∧ turn.task = .registration g) ∨ (j ≠ k ∧ c.Stands j g) := by
  by_cases own : j = k
  · subst own
    rw [Stands, task_take_self held, Option.some_inj] at h
    exact .inl ⟨rfl, h⟩
  · rw [Stands, task_take_of_ne own] at h
    exact .inr ⟨own, h⟩

theorem Stands.take_of_ne {k j : Nat} {g : Registration} (h : c.Stands j g) (apart : j ≠ k)
    (turn : Turn) : (c.take k turn).Stands j g :=
  (task_take_of_ne apart turn).trans h

theorem calls_take (c : Crew) (k : Nat) (turn : Turn) : c.calls.Sublist (c.take k turn).calls :=
  List.sublist_append_left _ _

/-- The calls of a step are those of its task. -/
theorem mem_calls_take {k j : Nat} {turn : Turn} {call : Call} (h : (j, call) ∈ (c.take k turn).calls) :
    (j, call) ∈ c.calls ∨ (j = k ∧ turn.call = some call) := by
  refine (List.mem_append.mp h).imp_right fun new => ?_
  simpa [eq_comm, and_comm] using new

theorem Registry.numbered_take (h : c.Registry) {k : Nat} {t : CrewTask}
    (held : c.tasks[k]? = some t) (turn : Turn) :
    ∀ call ∈ (c.take k turn).calls, call.1 < (c.take k turn).tasks.length := by
  rintro ⟨j, call⟩ mem
  rw [take, List.length_set]
  rcases mem_calls_take mem with old | ⟨rfl, -⟩
  · exact h.numbered _ old
  · exact (List.getElem?_eq_some_iff.mp held).1

/-- A delivery takes a step. -/
theorem Registry.take_delivery (h : c.Registry) (r : Reconciler) {k : Nat} {g : Handling}
    (held : c.tasks[k]? = some (.delivery g)) :
    (c.take k ((CrewTask.delivery g).turn r c.world)).Registry := by
  obtain ⟨inHand, holds⟩ := r.holds_step (h.inHand g (List.mem_of_getElem? held))
  refine h.quiet ⟨calls_take .., ?_, ?_, holds⟩ (h.numbered_take held _) ?_
  · intro j g' stands
    rcases stands_take held stands with ⟨-, task⟩ | ⟨apart, before⟩
    · exact nomatch task
    · exact .inl ⟨before, fun saved => (mem_calls_take saved).resolve_right fun own => apart own.1⟩
  · intro j account stands
    refine stands.take_of_ne ?_ _
    rintro rfl
    exact nomatch held.symm.trans stands
  · intro g' mem
    rcases List.mem_or_eq_of_mem_set mem with old | now
    · intro account some
      exact (holds _).mpr (h.inHand g' old account some)
    · cases now
      exact inHand

theorem Registry.inHand_take (h : c.Registry) {k : Nat} {turn : Turn} {g : Registration}
    (task : turn.task = .registration g)
    (grows : ∀ a, c.world.accounts.Holds a → turn.world.accounts.Holds a) :
    ∀ g', .delivery g' ∈ (c.take k turn).tasks → g'.Held (c.take k turn).world.accounts := by
  intro g' mem account some
  rcases List.mem_or_eq_of_mem_set mem with old | now
  · exact grows _ (h.inHand g' old account some)
  · exact nomatch now.trans task

/-- A registration finds its account, or it fails. -/
theorem Registry.take_ended (h : c.Registry) {k : Nat} {g g' : Registration} {call : Option Call}
    (held : c.Stands k g) (going : ¬g.Over) (vacant : g'.vacant? = none) (silent : call ≠ some .save) :
    (c.take k ⟨.registration g', c.world, call, none⟩).Registry := by
  have unsaved : (k, Call.save) ∉ c.calls := by
    intro saved
    obtain ⟨address, rfl⟩ := h.new held saved
    exact going trivial
  refine h.quiet ⟨calls_take .., ?_, ?_, fun _ => Iff.rfl⟩ (h.numbered_take held _)
    (h.inHand_take rfl fun _ => id)
  · intro j i stands
    rcases stands_take held stands with ⟨rfl, task⟩ | ⟨apart, before⟩
    · cases task
      refine .inr ⟨vacant, fun saved => ?_⟩
      rcases mem_calls_take saved with old | ⟨-, own⟩
      · exact unsaved old
      · exact silent own
    · exact .inl ⟨before, fun saved => (mem_calls_take saved).resolve_right fun own => apart own.1⟩
  · intro j account stands
    refine stands.take_of_ne ?_ _
    rintro rfl
    cases held.symm.trans stands
    exact going trivial

/-- **A registration finds no account.** Then no other one can have saved it yet. -/
theorem Registry.take_missing (h : c.Registry) {k : Nat} {a : String}
    (held : c.Stands k (.arrived a)) (absent : ¬c.world.accounts.Holds a) :
    (c.take k ⟨.registration (.missing a), c.world, some .lookUp, none⟩).Registry := by
  have grown := calls_take c k ⟨.registration (.missing a), c.world, some .lookUp, none⟩
  refine ⟨h.numbered_take held _, h.inHand_take rfl fun _ => id, ?looked, ?saved, ?new, ?order, ?cause⟩
  case looked =>
    intro j g b stands vacant
    rcases stands_take held stands with ⟨rfl, -⟩ | ⟨-, before⟩
    · exact List.mem_append_right _ List.mem_cons_self
    · exact grown.subset (h.looked before vacant)
  case saved =>
    intro j account stands
    rcases stands_take held stands with ⟨-, task⟩ | ⟨-, before⟩
    · exact nomatch task
    · exact (h.saved before).imp_left fun saved => grown.subset saved
  case new =>
    intro j g stands saved
    have old : (j, Call.save) ∈ c.calls :=
      (mem_calls_take saved).resolve_right fun own => nomatch own.2
    rcases stands_take held stands with ⟨rfl, -⟩ | ⟨-, before⟩
    · obtain ⟨address, created⟩ := h.new held old
      exact nomatch created
    · exact h.new before old
  case order =>
    intro j l g b account apart stands vacant created same
    rcases stands_take held created with ⟨-, task⟩ | ⟨-, createdBefore⟩
    · exact nomatch task
    · rcases stands_take held stands with ⟨-, task⟩ | ⟨-, before⟩
      · -- the other one has saved the account that was not found
        cases task
        cases vacant
        exact absurd ((h.saved createdBefore).2.congr same) absent
      · exact (h.order apart before vacant createdBefore same).trans grown
  case cause =>
    intro j b stands holds
    rcases stands_take held stands with ⟨-, task⟩ | ⟨-, before⟩
    · cases task
      exact absurd holds absent
    · obtain ⟨l, account, created, same⟩ := h.cause before holds
      refine ⟨l, account, created.take_of_ne ?_ _, same⟩
      rintro rfl
      exact nomatch held.symm.trans created

/-- **A registration saves a new account.** Every other one that has not found it looked it up
before. -/
theorem Registry.take_created (h : c.Registry) {k : Nat} {a : String}
    (held : c.Stands k (.missing a)) :
    (c.take k ⟨.registration (.created (.register a)),
      { c.world with accounts := c.world.accounts.save (.register a) }, some .save, none⟩).Registry := by
  have grown := calls_take c k ⟨.registration (.created (.register a)),
    { c.world with accounts := c.world.accounts.save (.register a) }, some .save, none⟩
  have grows : ∀ b, c.world.accounts.Holds b → (c.world.accounts.save (.register a)).Holds b :=
    fun b holds => (c.world.accounts.holds_save (.register a) b).mpr (.inr holds)
  refine ⟨h.numbered_take held _, h.inHand_take rfl grows, ?looked, ?saved, ?new, ?order, ?cause⟩
  case looked =>
    intro j g b stands vacant
    rcases stands_take held stands with ⟨rfl, -⟩ | ⟨-, before⟩
    · exact grown.subset (h.looked held rfl)
    · exact grown.subset (h.looked before vacant)
  case saved =>
    intro j account stands
    rcases stands_take held stands with ⟨rfl, task⟩ | ⟨-, before⟩
    · cases task
      exact ⟨List.mem_append_right _ List.mem_cons_self,
        (c.world.accounts.holds_save _ _).mpr (.inl rfl)⟩
    · obtain ⟨saved, holds⟩ := h.saved before
      exact ⟨grown.subset saved, grows _ holds⟩
  case new =>
    intro j g stands saved
    rcases stands_take held stands with ⟨-, task⟩ | ⟨apart, before⟩
    · cases task
      exact ⟨a, rfl⟩
    · exact h.new before ((mem_calls_take saved).resolve_right fun own => apart own.1)
  case order =>
    intro j l g b account apart stands vacant created same
    rcases stands_take held created with ⟨rfl, task⟩ | ⟨-, createdBefore⟩
    · rcases stands_take held stands with ⟨own, -⟩ | ⟨-, before⟩
      · exact absurd own apart
      · -- this save is the last call, so every look-up of another one came before
        exact pair_sublist_concat.mpr (.inr ⟨h.looked before vacant, rfl⟩)
    · rcases stands_take held stands with ⟨rfl, task⟩ | ⟨-, before⟩
      · cases task
        cases vacant
        have own : lower account.address = lower a := same.trans (lower_lower a)
        exact (h.order apart held rfl createdBefore own).trans grown
      · exact (h.order apart before vacant createdBefore same).trans grown
  case cause =>
    intro j b stands holds
    rcases stands_take held stands with ⟨-, task⟩ | ⟨-, before⟩
    · exact nomatch task
    · rcases (c.world.accounts.holds_save _ _).mp holds with own | old
      · -- what another one has not found is stored by now, because of this save
        exact ⟨k, .register a, task_take_self held _, own.symm⟩
      · obtain ⟨l, account, created, same⟩ := h.cause before old
        refine ⟨l, account, created.take_of_ne ?_ _, same⟩
        rintro rfl
        exact nomatch held.symm.trans created

/-- A registration takes a step. -/
theorem Registry.take_registration (h : c.Registry) (r : Reconciler) {k : Nat} {g : Registration}
    (held : c.Stands k g) : (c.take k ((CrewTask.registration g).turn r c.world)).Registry := by
  have does := g.turned r c.world
  generalize (CrewTask.registration g).turn r c.world = turn at does ⊢
  cases does with
  | missing absent => exact h.take_missing held absent
  | existing found => exact h.take_ended held id rfl nofun
  | unread fails => exact h.take_ended held id rfl nofun
  | created => exact h.take_created held
  | unsaved => exact h.take_ended held id rfl nofun
  | finished => rwa [take_same held]

/-- **Every event keeps what the calls tell.** -/
theorem Registry.step (h : c.Registry) (r : Reconciler) (e : CrewEvent) : (c.step r e).Registry := by
  cases e with
  | deliver d => exact h.join (.inl ⟨d, rfl⟩)
  | register a => exact h.join (.inr ⟨a, rfl⟩)
  | advance k =>
    cases held : c.tasks[k]? with
    | none => rwa [step_advance_none held]
    | some t =>
      rw [step_advance held]
      cases t with
      | delivery g => exact h.take_delivery r held
      | registration g => exact h.take_registration r held

theorem Registry.stepIn (h : c.Registry) (now : Circumstances) (e : CrewEvent) :
    (c.stepIn now e).Registry := by
  have met : ({ c with world := { c.world with logs := now.logs } } : Crew).Registry :=
    ⟨h.numbered, h.inHand, h.looked, h.saved, h.new, h.order, h.cause⟩
  exact met.step now.reconciler e

theorem Registry.runIn (h : c.Registry) (events : List (Circumstances × CrewEvent)) :
    (c.runIn events).Registry :=
  runIn_induction h (fun now e registry => registry.stepIn now e) events

/-! ## A registration that is over -/

theorem Stands.step_over {k : Nat} {g : Registration} (h : c.Stands k g) (finished : g.Over)
    (r : Reconciler) (e : CrewEvent) : (c.step r e).Stands k g := by
  have bound : k < c.tasks.length := (List.getElem?_eq_some_iff.mp h).1
  cases e with
  | deliver d => rwa [Stands, Crew.step, join, List.getElem?_append_left bound]
  | register a => rwa [Stands, Crew.step, join, List.getElem?_append_left bound]
  | advance j =>
    cases moved : c.tasks[j]? with
    | none => rwa [step_advance_none moved]
    | some t =>
      rw [step_advance moved]
      by_cases own : k = j
      · subst own
        cases h.symm.trans moved
        rw [Stands, task_take_self h]
        cases g with
        | arrived | missing => exact finished.elim
        | existing | created | failed => rfl
      · exact h.take_of_ne own _

/-- **A registration that is over stays as it is.** -/
theorem Stands.runIn_over {k : Nat} {g : Registration} (h : c.Stands k g) (finished : g.Over)
    (events : List (Circumstances × CrewEvent)) : (c.runIn events).Stands k g := by
  refine runIn_induction (P := fun c => c.Stands k g) h (fun {c} now e stands => ?_) events
  have met : ({ c with world := { c.world with logs := now.logs } } : Crew).Stands k g := stands
  exact met.step_over finished now.reconciler e

/-! ## The main theorem -/

/-- The call of one task came before that of another. -/
def Before (c : Crew) (first second : Nat × Call) : Prop := [first, second].Sublist c.calls

/-- **Only overlapping registrations of one address replace an account.** However any number of
registrations and deliveries take turns, whatever the chain answers and whichever calls fail: a
registration that looks its account up when one is stored leaves the store as it is, never saves, and is
answered with the account as it is stored at that moment, unless the look-up fails. A registration saves
nothing but the new account of its address, after it has found none; if one is stored by then, another
registration of the same address has saved it since. And of two registrations of one address that both
save a new account, each has looked it up before the other one saved it. -/
theorem registrations_keep_accounts (w : World) (before : List (Circumstances × CrewEvent))
    (now : Circumstances) (k : Nat) :
    let c := (idle w).runIn before
    let next := c.stepIn now (.advance k)
    (∀ a, c.Stands k (.arrived a) → c.world.accounts.Holds a →
      next.world.accounts = c.world.accounts ∧
      ∃ g, ((∃ account, c.world.accounts.get? a = .ok (some account) ∧
            Service.registered g = ⟨200, some account.toJson⟩) ∨
          ∃ e, c.world.getAccount now.reconciler.faults a = .error e ∧
            Service.registered g = .internal e) ∧
        ∀ after, (next.runIn after).Stands k g ∧ (k, Call.save) ∉ (next.runIn after).calls) ∧
    (∀ g, c.Stands k g → next.world.accounts ≠ c.world.accounts →
      ∃ a, g = .missing a ∧ next.Stands k (.created (.register a)) ∧
        next.world.accounts = c.world.accounts.save (.register a) ∧
        (c.world.accounts.Holds a → ∃ l account, l ≠ k ∧ c.Stands l (.created account) ∧
          lower account.address = lower a ∧ c.Before (k, .lookUp) (l, .save))) ∧
    (∀ l a b, k ≠ l → c.Stands k (.created a) → c.Stands l (.created b) →
      lower a.address = lower b.address →
      c.Before (k, .lookUp) (l, .save) ∧ c.Before (l, .lookUp) (k, .save)) := by
  intro c next
  have registry : c.Registry := (registry_idle w).runIn before
  let met : Crew := { c with world := { c.world with logs := now.logs } }
  -- what is over without a new account has not saved one and will not
  have ended {g : Registration} {d : Crew} (moved : next = d) (stands : d.Stands k g)
      (finished : g.Over) (vacant : g.vacant? = none)
      (after : List (Circumstances × CrewEvent)) :
      (d.runIn after).Stands k g ∧ (k, Call.save) ∉ (d.runIn after).calls := by
    have later := stands.runIn_over finished after
    refine ⟨later, fun saved => ?_⟩
    obtain ⟨address, rfl⟩ := ((moved ▸ registry.stepIn now _ : d.Registry).runIn after).new later saved
    exact nomatch vacant
  refine ⟨?lookUp, ?save, ?both⟩
  case lookUp =>
    intro a stands holds
    have turned := (Registration.arrived a).turned now.reconciler met.world
    have moved : next = met.take k ((CrewTask.registration (.arrived a)).turn now.reconciler met.world) :=
      step_advance stands
    generalize (CrewTask.registration (.arrived a)).turn now.reconciler met.world = turn at turned moved
    rw [moved]
    cases turned with
    | missing absent => exact absurd holds absent
    | @existing _ account found =>
      refine ⟨rfl, .existing account, .inl ⟨account, found, rfl⟩, fun after => ?_⟩
      exact ended moved (task_take_self stands _) trivial rfl after
    | @unread _ e fails =>
      refine ⟨rfl, .failed e, .inr ⟨e, fails, rfl⟩, fun after => ?_⟩
      exact ended moved (task_take_self stands _) trivial rfl after
    | finished finished => exact finished.elim
  case save =>
    intro g stands changed
    have turned := g.turned now.reconciler met.world
    have moved : next = met.take k ((CrewTask.registration g).turn now.reconciler met.world) :=
      step_advance stands
    generalize (CrewTask.registration g).turn now.reconciler met.world = turn at turned moved
    rw [moved] at changed ⊢
    cases turned with
    | @created a =>
      refine ⟨a, rfl, task_take_self stands _, rfl, fun holds => ?_⟩
      obtain ⟨l, account, created, same⟩ := registry.cause stands holds
      have apart : l ≠ k := by
        rintro rfl
        exact nomatch stands.symm.trans created
      exact ⟨l, account, apart, created, same, registry.order apart.symm stands rfl created same⟩
    | missing | existing | unread | unsaved | finished => exact absurd rfl changed
  case both =>
    intro l a b apart first second same
    exact ⟨registry.order apart first rfl second same.symm,
      registry.order (Ne.symm apart) second rfl first same⟩

end Crew

/-! ## Two registrations at the same time -/

namespace ResetAccount

/-- No call fails, and no logs are stored. -/
def calm : Crew.Circumstances :=
  ⟨⟨⟨"app"⟩, .transfer, LostUpdate.chain, .none, 0⟩, .memory .empty⟩

/-- A world without accounts. -/
def world : World := ⟨.memory .empty, .memory .empty, ⟨16, [], 0, [some 0]⟩⟩

/-- An event that concerns the account and tells no transaction. -/
def event : Delivery := ⟨"app_transaction.0xa1", Utf8.encode "0"⟩

/-- Two registrations of one address find no account. One of them saves a new account, and a delivery
refreshes it. Another registration has not looked it up yet. -/
def before : List (Crew.Circumstances × CrewEvent) :=
  [.register "0xA1", .register "0xa1", .advance 0, .advance 1, .advance 0, .deliver event, .advance 2,
    .advance 2, .advance 2, .advance 2, .register "0xA1"].map (calm, ·)

/-- The crew at that moment. -/
def crew : Crew := (Crew.idle world).runIn before

/-- The crew after the second registration has saved its account too. -/
def reset : Crew := crew.stepIn calm (.advance 1)

/-- The account as the delivery has left it. -/
def refreshed : Account := ⟨"0xa1", "32", [], true, some 0⟩

/-- What comes of it. -/
theorem stages :
    crew.tasks[1]? = some (.registration (.missing "0xa1")) ∧
      crew.tasks[3]? = some (.registration (.arrived "0xA1")) ∧
      crew.world.accounts.get? "0xa1" = .ok (some refreshed) ∧
      reset.tasks[0]? = some (.registration (.created (.register "0xA1"))) ∧
      reset.tasks[1]? = some (.registration (.created (.register "0xa1"))) ∧
      reset.world.accounts.get? "0xa1" = .ok (some (.register "0xa1")) := by
  decide +kernel

/-- **An account is reset:** two registrations of one address both answer that they have created it,
and the second one replaces what a delivery has saved since by an account without any balance. -/
theorem account_can_be_reset :
    crew.world.accounts.get? "0xa1" = .ok (some refreshed) ∧
      reset.world.accounts.get? "0xa1" = .ok (some (.register "0xa1")) ∧
      reset.Stands 0 (.created (.register "0xA1")) ∧ reset.Stands 1 (.created (.register "0xa1")) ∧
      (Service.registered (.created (.register "0xA1"))).status = 201 ∧
      (Service.registered (.created (.register "0xa1"))).status = 201 := by
  obtain ⟨-, -, found, first, second, now⟩ := stages
  exact ⟨found, now, first, second, rfl, rfl⟩

/-- The two have overlapped, and the third one finds the account that the delivery has refreshed. -/
theorem late_registration_finds_account :
    (∃ g, (crew.stepIn calm (.advance 3)).Stands 3 g ∧
        Service.registered g = ⟨200, some refreshed.toJson⟩) ∧
      (∃ l account, l ≠ 1 ∧ crew.Stands l (.created account) ∧
        crew.Before (1, .lookUp) (l, .save)) ∧
      reset.Before (0, .lookUp) (1, .save) ∧ reset.Before (1, .lookUp) (0, .save) := by
  obtain ⟨missing, arrived, found, first, second, now⟩ := stages
  have same : lower "0xa1" = lower "0xA1" := by decide +kernel
  have foundToo : crew.world.accounts.get? "0xA1" = .ok (some refreshed) := by
    rw [← AccountStore.get?_congr same, found]
  have changed : reset.world.accounts ≠ crew.world.accounts := by
    intro unchanged
    rw [unchanged, found] at now
    exact absurd now (by decide)
  have read : crew.world.getAccount calm.reconciler.faults "0xA1" = .ok (some refreshed) :=
    unlessFaulty_eq_ok.mpr ⟨rfl, foundToo⟩
  have holds : crew.world.accounts.Holds "0xa1" := .of_get? found
  refine ⟨?_, ?_, ?_⟩
  · obtain ⟨finds, -, -⟩ := Crew.registrations_keep_accounts world before calm 3
    obtain ⟨-, g, answer, kept⟩ := finds "0xA1" arrived (holds.congr same)
    refine ⟨g, (kept []).1, ?_⟩
    rcases answer with ⟨account, own, told⟩ | ⟨e, fails, -⟩
    · obtain rfl := Option.some.inj (Except.ok.inj (foundToo.symm.trans own))
      exact told
    · exact nomatch read.symm.trans fails
  · obtain ⟨-, saves, -⟩ := Crew.registrations_keep_accounts world before calm 1
    obtain ⟨a, own, -, -, because⟩ := saves _ missing changed
    obtain rfl := Registration.missing.inj own
    obtain ⟨l, account, apart, created, -, order⟩ := because holds
    exact ⟨l, account, apart, created, order⟩
  · obtain ⟨-, -, both⟩ :=
      Crew.registrations_keep_accounts world (before ++ [(calm, .advance 1)]) calm 0
    have again : (Crew.idle world).runIn (before ++ [(calm, .advance 1)]) = reset := by
      rw [Crew.runIn, List.foldl_append]
      rfl
    rw [again] at both
    exact both 1 (.register "0xA1") (.register "0xa1") (by decide) first second
      (by decide +kernel)

end ResetAccount

end TransferLedger
