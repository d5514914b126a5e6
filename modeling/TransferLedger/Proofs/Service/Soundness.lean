/-
# TransferLedger.Proofs.Service.Soundness -- only sound accounts are ever stored

Registrations and deliveries share an account store and take turns at it, call by call. Whatever the
chain answers meanwhile, whichever calls fail and whatever logs come in, a step saves no account but
a new one or one that was found in the store and refreshed since. So if the store and the accounts in
hand are sound they stay so, and a store that starts empty never holds anything else.
-/

import TransferLedger.Proofs.Account.Sound
import TransferLedger.Proofs.Reconcile.Handling
import TransferLedger.Proofs.Service.Crew
import TransferLedger.Service.Api

namespace TransferLedger

/-! ## One step of one task -/

/-- The account that a delivery in progress has in hand. -/
def Handling.account? : Handling → Option Account
  | .found _ account | .refreshed _ account | .saved _ account => some account
  | .arrived _ | .done _ => none

/-- A delivery with a sound account in hand, or with none. -/
def Handling.Sound (h : Handling) : Prop := ∀ account, h.account? = some account → account.Sound

theorem Handling.sound_arrived (d : Delivery) : (arrived d).Sound := nofun

theorem Handling.sound_done (result : Except Failure Outcome) : (done result).Sound := nofun

/-- **A step of a delivery** keeps the store and the account in hand sound. -/
theorem Reconciler.sound_step (r : Reconciler) {h : Handling} {w : World}
    (stored : w.accounts.Sound) (inHand : h.Sound) :
    (r.step h w).1.Sound ∧ (r.step h w).2.1.accounts.Sound := by
  have does := r.stepped h w
  generalize r.step h w = next at does ⊢
  cases does with
  | found tells safe held =>
    -- the account in hand comes out of the store
    refine ⟨?_, stored⟩
    rintro _ ⟨⟩
    exact stored.get? held
  | @refreshed n account fresh asked reads =>
    -- it is refreshed with what the chain answers, whatever that is
    refine ⟨?_, stored⟩
    rintro _ ⟨⟩
    exact (inHand account rfl).merge reads r.now
  | @saved n account =>
    -- the store may have changed since the account was found; it is overwritten all the same
    exact ⟨inHand, stored.save (inHand account rfl)⟩
  | dropped | unread | unsaved | told | untold | done => exact ⟨Handling.sound_done _, stored⟩

/-- **A step of a registration** keeps the store sound: it saves a new account at most. -/
theorem Registration.sound_step (faults : Faults) (g : Registration) {w : World}
    (stored : w.accounts.Sound) : (g.step faults w).2.accounts.Sound := by
  cases g with
  | missing address =>
    rcases step_missing_cases faults address w with created | ⟨e, failed⟩
    · rw [created]
      exact stored.save (Account.sound_register address)
    · rwa [failed]
  | arrived _ | existing _ | created _ | failed _ => exact stored

/-! ## Tasks that take turns -/

/-- A task with a sound account in hand, or with none that it could still save. -/
def CrewTask.Sound : CrewTask → Prop
  | .delivery h => h.Sound
  | .registration _ => True

theorem CrewTask.sound_turn (r : Reconciler) {t : CrewTask} {w : World}
    (stored : w.accounts.Sound) (inHand : t.Sound) :
    (t.turn r w).task.Sound ∧ (t.turn r w).world.accounts.Sound := by
  cases t with
  | delivery h => exact r.sound_step stored inHand
  | registration g => exact ⟨trivial, g.sound_step r.faults stored⟩

namespace Crew

/-- **A crew around a sound store,** whose tasks have sound accounts in hand. -/
structure Sound (c : Crew) : Prop where
  stored : c.world.accounts.Sound
  inHand : ∀ t ∈ c.tasks, t.Sound

variable {c : Crew}

theorem Sound.join (h : c.Sound) {t : CrewTask} (inHand : t.Sound) : (c.join t).Sound where
  stored := h.stored
  inHand := by
    intro s hs
    rcases List.mem_append.mp hs with old | new
    · exact h.inHand s old
    · rwa [List.mem_singleton.mp new]

/-- **Every event keeps a crew sound.** -/
theorem Sound.step (h : c.Sound) (r : Reconciler) (e : CrewEvent) : (c.step r e).Sound := by
  cases e with
  | deliver d => exact h.join (Handling.sound_arrived d)
  | register address => exact h.join trivial
  | advance k =>
    cases held : c.tasks[k]? with
    | none => rwa [step_advance_none held]
    | some t =>
      obtain ⟨inHand, stored⟩ := t.sound_turn r h.stored (h.inHand t (List.mem_of_getElem? held))
      rw [step_advance held]
      -- All tasks but the one that took the step stand as they did.
      refine ⟨stored, fun s hs => ?_⟩
      rcases List.mem_or_eq_of_mem_set hs with other | rfl
      · exact h.inHand s other
      · exact inHand

/-! ## Runs in changing circumstances -/

/-- What an event meets with: the chain, the calls that fail, the time, and the logs stored so far. -/
structure Circumstances where
  reconciler : Reconciler
  logs : LogStore

/-- The crew after an event in some circumstances. -/
def stepIn (c : Crew) (k : Circumstances) (e : CrewEvent) : Crew :=
  { c with world := { c.world with logs := k.logs } }.step k.reconciler e

/-- **The crew after some events,** each in circumstances of its own. -/
def runIn (c : Crew) (events : List (Circumstances × CrewEvent)) : Crew :=
  events.foldl (fun c (k, e) => c.stepIn k e) c

theorem Sound.stepIn (h : c.Sound) (k : Circumstances) (e : CrewEvent) : (c.stepIn k e).Sound := by
  have met : ({ c with world := { c.world with logs := k.logs } } : Crew).Sound :=
    ⟨h.stored, h.inHand⟩
  exact met.step k.reconciler e

/-- What holds at first and is preserved by every event, in any circumstances, holds after every run. -/
theorem runIn_induction {P : Crew → Prop} (first : P c)
    (next : ∀ {c : Crew} (k : Circumstances) (e : CrewEvent), P c → P (c.stepIn k e))
    (events : List (Circumstances × CrewEvent)) : P (c.runIn events) := by
  induction events generalizing c with
  | nil => exact first
  | cons event rest ih => exact ih (next event.1 event.2 first)

theorem Sound.runIn (h : c.Sound) (events : List (Circumstances × CrewEvent)) :
    (c.runIn events).Sound :=
  runIn_induction h (fun k e sound => sound.stepIn k e) events

/-- **Every stored account is sound:** after any run that starts with an empty store, each record
can be read and is of a sound account whose address is the key of the record. -/
theorem stored_accounts_sound {w : World} (empty : w.accounts.records = [])
    (events : List (Circumstances × CrewEvent)) :
    ∀ entry ∈ ((idle w).runIn events).world.accounts.records,
      ∃ account, entry.2.read = .ok account ∧ account.address = entry.1 ∧ account.Sound := by
  have idle : (idle w).Sound := ⟨AccountStore.sound_of_empty empty, nofun⟩
  exact (idle.runIn events).stored

end Crew

namespace Registered

open TransferLedger.Text

/-- The account that is registered twice at once, while it is being reconciled. -/
def holder : String := "0x00000000000000000000000000000000000000a1"

/-- A chain where every balance is the word 32. -/
def chain : Chain where
  balance _ := .ok 32
  call _ _ := .ok "0x0000000000000000000000000000000000000000000000000000000000000020"

/-- Nothing fails. -/
def calm : Crew.Circumstances := ⟨⟨⟨"app"⟩, .transfer, chain, .none, 0⟩, .memory .empty⟩

/-- A transaction of the holder that moves one token. -/
def delivery : Delivery where
  routingKey := "app_user.created"
  body := ["\x7b\"address\":\"", holder, "\",\"hash\":\"0x9\",\"logs\":[\x7b\"address\":\"0xC3\",",
    "\"topics\":[\"", EventSchema.transferTopic, "\"]\x7d]\x7d"].flatMap Utf8.encode

/-- Both registrations look the account up before either saves it, and the delivery finds it between
the two saves. -/
def events : List (Crew.Circumstances × CrewEvent) :=
  [(calm, .register holder), (calm, .register holder),
    (calm, .advance 0), (calm, .advance 1), (calm, .advance 1), (calm, .deliver delivery),
    (calm, .advance 2), (calm, .advance 0), (calm, .advance 2), (calm, .advance 2)]

def world : World := ⟨.memory .empty, .table .empty, ⟨16, [], 0, []⟩⟩

/-- The account in the end. -/
def refreshed : Account := ⟨holder, "32", [⟨"", "32", "0xc3", "32"⟩], true, some 0⟩

theorem account_registered_twice_is_sound :
    ((Crew.idle world).runIn events).world.accounts.records =
        [(holder, .line (.ofAccount refreshed))] ∧ refreshed.Sound := by
  have records : ((Crew.idle world).runIn events).world.accounts.records =
      [(holder, .line (.ofAccount refreshed))] := by
    decide +kernel
  obtain ⟨account, read, -, sound⟩ :=
    Crew.stored_accounts_sound (w := world) rfl events (holder, .line (.ofAccount refreshed))
      (by rw [records]; exact List.mem_singleton_self _)
  obtain rfl : account = refreshed := by
    have written : AccountRecord.read (.line (.ofAccount refreshed)) = .ok refreshed :=
      AccountLine.toAccount_ofAccount refreshed
    exact Except.ok.inj (read.symm.trans written)
  exact ⟨records, sound⟩

end Registered

/-! ## One request after another -/

/-- A delivery that is handled without others in between keeps the store sound. -/
theorem Reconciler.sound_steps (r : Reconciler) (k : Nat) {h : Handling} {w : World}
    (stored : w.accounts.Sound) (inHand : h.Sound) : (r.steps k h w).2.1.accounts.Sound := by
  induction k generalizing h w with
  | zero => exact stored
  | succ k ih =>
    obtain ⟨next, after⟩ := r.sound_step stored inHand
    exact ih after next

theorem Workshop.sound_deliver (r : Reconciler) {s : Workshop} (d : Delivery)
    (stored : s.world.accounts.Sound) : (s.deliver r d).1.world.accounts.Sound := by
  have handled : (s.deliver r d).1.world = (r.steps 4 (.arrived d) s.world).2.1 := rfl
  rw [handled]
  exact r.sound_steps 4 stored (Handling.sound_arrived d)

namespace Service

variable {s : Service} (r : Reconciler) (request : Request)

theorem sound_event (stored : s.workshop.world.accounts.Sound) (key : Request.Parameter)
    (body : List UInt8) : (s.event r key body).2.1.workshop.world.accounts.Sound := by
  unfold event
  split
  case h_1 => exact stored
  case h_2 key =>
    split
    case isTrue => exact stored
    case isFalse =>
      split
      case isTrue => exact stored
      case isFalse => exact Workshop.sound_deliver r ⟨key, body⟩ stored

theorem sound_register (stored : s.workshop.world.accounts.Sound) :
    (s.register r request).2.workshop.world.accounts.Sound := by
  unfold register
  split
  case h_1 => exact stored
  case h_2 address _ =>
    exact Registration.sound_step r.faults (.lookUp r.faults address s.workshop.world) stored

/-- Indexing logs does not touch the accounts. -/
theorem accounts_index : (s.index r request).2.workshop.world.accounts = s.workshop.world.accounts := by
  unfold index
  split
  case h_1 => rfl
  case h_2 =>
    split
    case h_1 => rfl
    case h_2 rows _ =>
      cases inserts : r.faults.insertLogs <;> simp [World.insertLogs, inserts, unlessFaulty]

/-- **No request puts anything but sound accounts in the store** of the service. -/
theorem sound_answer (stored : s.workshop.world.accounts.Sound) :
    (s.answer r request).2.1.workshop.world.accounts.Sound := by
  unfold answer
  split
  case h_1 => exact stored
  case h_2 route _ =>
    split
    case isFalse => exact stored
    case isTrue =>
      cases route with
      | health | account _ | stream => exact stored
      | logs =>
        show (s.index r request).2.workshop.world.accounts.Sound
        rwa [accounts_index]
      | accounts => exact sound_register r request stored
      | event key => exact sound_event r stored key request.body

end Service

end TransferLedger
