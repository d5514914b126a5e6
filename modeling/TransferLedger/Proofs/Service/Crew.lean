/-
# TransferLedger.Proofs.Service.Crew -- what holds of tasks that take turns

An event adds a task or lets one task take a step; all other tasks stand as they did. A busy workshop
moves its crew by at most one such event at a time, so that what holds of all runs of a crew holds
of all traces of a workshop. What the step of a registration can do is said here once, as it is for a
delivery with its stages.
-/

import TransferLedger.Proofs.Account.Stored
import TransferLedger.Service.Crew

namespace TransferLedger

/-! ## One step of a registration -/

namespace Registration

/-- A registration that has found no account saves a new one, or it fails and nothing has changed. -/
theorem step_missing_cases (faults : Faults) (address : String) (w : World) :
    step faults (.missing address) w =
      (.created (.register address), { w with accounts := w.accounts.save (.register address) }) ∨
    ∃ e, step faults (.missing address) w = (.failed e, w) := by
  cases saves : faults.saveAccount with
  | none => exact .inl (by simp only [step, save, World.saveAccount, saves, unlessFaulty])
  | some e => exact .inr ⟨e, by simp only [step, save, World.saveAccount, saves, unlessFaulty]⟩

/-- A registration that takes no step any more. -/
def Over : Registration → Prop
  | existing _ | created _ | failed _ => True
  | arrived _ | missing _ => False

/-- **What a registration does in one step.** -/
inductive Turned (r : Reconciler) (w : World) : Registration → Turn → Prop
  | missing {address : String} (absent : ¬w.accounts.Holds address) :
    Turned r w (.arrived address) ⟨.registration (.missing address), w, some .lookUp, none⟩
  | existing {address : String} {account : Account}
      (found : w.accounts.get? address = .ok (some account)) :
    Turned r w (.arrived address) ⟨.registration (.existing account), w, some .lookUp, none⟩
  | unread {address : String} {e : Failure} (fails : w.getAccount r.faults address = .error e) :
    Turned r w (.arrived address) ⟨.registration (.failed e), w, none, none⟩
  | created {address : String} :
    Turned r w (.missing address)
      ⟨.registration (.created (.register address)),
        { w with accounts := w.accounts.save (.register address) }, some .save, none⟩
  | unsaved {address : String} {e : Failure} :
    Turned r w (.missing address) ⟨.registration (.failed e), w, none, none⟩
  | finished {g : Registration} (finished : g.Over) : Turned r w g ⟨.registration g, w, none, none⟩

theorem turned (r : Reconciler) (g : Registration) (w : World) :
    Turned r w g ((CrewTask.registration g).turn r w) := by
  cases g with
  | arrived address =>
    cases looked : w.getAccount r.faults address with
    | error e =>
      simp only [CrewTask.turn, step, lookUp, looked]
      exact .unread looked
    | ok found =>
      obtain ⟨-, stored⟩ := unlessFaulty_eq_ok.mp looked
      cases found with
      | none =>
        simp only [CrewTask.turn, step, lookUp, looked]
        exact .missing fun holds => holds stored
      | some account =>
        simp only [CrewTask.turn, step, lookUp, looked]
        exact .existing stored
  | missing address =>
    rcases step_missing_cases r.faults address w with saves | ⟨e, fails⟩
    · simp only [CrewTask.turn, saves]
      exact .created
    · simp only [CrewTask.turn, fails]
      exact .unsaved
  | existing account => exact .finished trivial
  | created account => exact .finished trivial
  | failed e => exact .finished trivial

end Registration

namespace Crew

variable {r : Reconciler} {c : Crew}

/-! ## One event -/

theorem step_advance {k : Nat} {t : CrewTask} (h : c.tasks[k]? = some t) :
    c.step r (.advance k) = c.take k (t.turn r c.world) := by
  simp only [step, h]

theorem step_advance_none {k : Nat} (h : c.tasks[k]? = none) : c.step r (.advance k) = c := by
  simp only [step, h]

theorem task_take_self {k : Nat} {t : CrewTask} (h : c.tasks[k]? = some t) (turn : Turn) :
    (c.take k turn).tasks[k]? = some turn.task := by
  have bound : k < c.tasks.length := (List.getElem?_eq_some_iff.mp h).1
  simp [take, bound]

theorem task_take_of_ne {j k : Nat} (h : j ≠ k) (turn : Turn) :
    (c.take k turn).tasks[j]? = c.tasks[j]? := by
  simp [take, List.getElem?_set_ne (Ne.symm h)]

/-- A step that leaves its task and the world as they are changes nothing. -/
theorem take_same {k : Nat} {t : CrewTask} (h : c.tasks[k]? = some t) :
    c.take k ⟨t, c.world, none, none⟩ = c := by
  obtain ⟨bound, own⟩ := List.getElem?_eq_some_iff.mp h
  have same : c.tasks.set k t = c.tasks := by
    rw [← own, List.set_getElem_self]
  simp only [take, Option.map_none, Option.toList_none, List.append_nil, same]

/-! ## Tasks keep their numbers -/

/-- As many tasks stand as have joined. -/
def Numbered (c : Crew) : Prop := c.tasks.length = c.joined.length

theorem numbered_idle (w : World) : (idle w).Numbered := rfl

theorem numbered_step (h : c.Numbered) (e : CrewEvent) : (c.step r e).Numbered := by
  cases e with
  | deliver d => simpa [step, join, Numbered] using h
  | register address => simpa [step, join, Numbered] using h
  | advance k =>
    cases held : c.tasks[k]? with
    | none => rwa [step_advance_none held]
    | some t =>
      rw [step_advance held]
      simpa [take, Numbered] using h

/-- A task that has joined stays under its number. -/
theorem joined_step {k : Nat} {t : CrewTask} (h : c.joined[k]? = some t) (e : CrewEvent) :
    (c.step r e).joined[k]? = some t := by
  have bound : k < c.joined.length := (List.getElem?_eq_some_iff.mp h).1
  cases e with
  | deliver d => simpa [step, join, List.getElem?_append_left bound] using h
  | register address => simpa [step, join, List.getElem?_append_left bound] using h
  | advance j =>
    cases held : c.tasks[j]? with
    | none => rwa [step_advance_none held]
    | some _ => rwa [step_advance held]

/-! ## Runs -/

@[simp] theorem run_nil (c : Crew) : c.run r [] = c := rfl

/-- What holds at first and is preserved by every event holds after every run. -/
theorem run_induction {P : Crew → Prop} (first : P c) (next : ∀ c e, P c → P (c.step r e))
    (events : List CrewEvent) : P (c.run r events) := by
  induction events generalizing c with
  | nil => exact first
  | cons e events ih => exact ih (next c e first)

end Crew

/-! ## Traces of a workshop -/

namespace BusyWorkshop

variable {r : Reconciler} {s s' : BusyWorkshop}

theorem trace_append (s : BusyWorkshop) (before after : List BusyEvent) :
    s.trace r (before ++ after) = (s.trace r before).bind fun s => s.trace r after := by
  induction before generalizing s with
  | nil => rfl
  | cons e before ih =>
    rw [List.cons_append, trace, trace, Option.bind_assoc]
    exact congrArg (s.step r e).bind (funext ih)

/-- **What an event does,** and what has to stand for it to happen. A run that starts is a new task
of the crew, one that ends is over in the crew too, and one that gives its permit back has no number
any more. All other events of the consumer leave the crew and the numbers as they are. -/
inductive Next (r : Reconciler) (s : BusyWorkshop) : BusyEvent → BusyWorkshop → Prop
  | register (address : String) :
    Next r s (.register address) { s with crew := s.crew.step r (.register address) }
  | advance {k : Nat} (stands : k < s.crew.tasks.length) :
    Next r s (.advance k) { s with crew := s.crew.step r (.advance k) }
  | start {c : Consumer Delivery} {d : Delivery} (step : s.consumer.step .start = some c)
      (waits : s.consumer.waiting = some d) :
    Next r s (.consumer .start)
      ⟨c, s.numbers ++ [s.crew.tasks.length], s.crew.step r (.deliver d)⟩
  | finish {i : Nat} {success : Bool} {c : Consumer Delivery}
      (step : s.consumer.step (.finish i success) = some c) (closed : s.handled? i = some success) :
    Next r s (.consumer (.finish i success)) { s with consumer := c }
  | release {i : Nat} {c : Consumer Delivery} (step : s.consumer.step (.release i) = some c) :
    Next r s (.consumer (.release i)) { s with consumer := c, numbers := s.numbers.eraseIdx i }
  | other {e : ConsumerEvent Delivery} {c : Consumer Delivery} (step : s.consumer.step e = some c)
      (starts : e ≠ .start) (finishes : ∀ i success, e ≠ .finish i success)
      (releases : ∀ i, e ≠ .release i) :
    Next r s (.consumer e) { s with consumer := c }

theorem next_of_step {e : BusyEvent} (h : s.step r e = some s') : s.Next r e s' := by
  cases e with
  | register address =>
    obtain rfl := Option.some.inj h
    exact .register address
  | advance k =>
    simp only [step] at h
    split at h <;> cases h
    next stands => exact .advance stands
  | consumer e =>
    simp only [step] at h
    split at h
    case h_1 => exact nomatch h
    case h_2 c step =>
      split at h
      case h_1 =>
        obtain ⟨d, waits, rfl⟩ := Option.map_eq_some_iff.mp h
        exact .start step waits
      case h_2 =>
        split at h <;> cases h
        next closed => exact .finish step closed
      case h_3 =>
        obtain rfl := Option.some.inj h
        exact .release step
      case h_4 starts finishes releases =>
        obtain rfl := Option.some.inj h
        exact .other step starts finishes releases

/-- An event moves the crew by at most one of its own. -/
theorem crew_of_step {e : BusyEvent} (h : s.step r e = some s') :
    ∃ events, s'.crew = s.crew.run r events := by
  cases next_of_step h with
  | register address => exact ⟨[.register address], rfl⟩
  | @advance k => exact ⟨[.advance k], rfl⟩
  | @start c d => exact ⟨[.deliver d], rfl⟩
  | finish | release | other => exact ⟨[], rfl⟩

/-- **The crew of a workshop makes a run.** -/
theorem crew_of_trace {events : List BusyEvent} (h : s.trace r events = some s') :
    ∃ moves, s'.crew = s.crew.run r moves := by
  induction events generalizing s with
  | nil =>
    obtain rfl := Option.some.inj h
    exact ⟨[], rfl⟩
  | cons e events ih =>
    obtain ⟨middle, first, rest⟩ := Option.bind_eq_some_iff.mp h
    obtain ⟨before, hbefore⟩ := crew_of_step first
    obtain ⟨after, hafter⟩ := ih rest
    refine ⟨before ++ after, ?_⟩
    rw [hafter, hbefore, Crew.run, Crew.run, Crew.run, List.foldl_append]

end BusyWorkshop

end TransferLedger
