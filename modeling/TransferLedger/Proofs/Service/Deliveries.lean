/-
# TransferLedger.Proofs.Service.Deliveries -- every accepted delivery is processed at most once

In a workshop the events of the consumer are interleaved with the steps of the tasks that it starts,
and with those of registrations. Its consumer makes a trace of its own, so its books are right. What
ties it to the crew is that each delivery that gets a permit becomes one task, and that a task which is
not over belongs to a run that has not been handled; so no more deliveries are being processed than
there are permits.
-/

import TransferLedger.Proofs.Reconcile.Consumer
import TransferLedger.Proofs.Service.Overlap
import TransferLedger.Proofs.Service.Soundness

namespace TransferLedger

/-! ## Lists that go together -/

section Pairs

variable {R : α → β → Prop} {as : List α} {bs : List β} {i : Nat}

theorem exists_partner (h : List.Forall₂ R as bs) {a : α} (held : as[i]? = some a) :
    ∃ b, bs[i]? = some b ∧ R a b := by
  induction h generalizing i with
  | nil => exact nomatch held
  | cons first rest ih =>
    cases i with
    | zero =>
      cases held
      exact ⟨_, rfl, first⟩
    | succ i => exact ih held

theorem forall₂_set (h : List.Forall₂ R as bs) {a : α} {b : β} (partner : bs[i]? = some b)
    (pair : R a b) : List.Forall₂ R (as.set i a) bs := by
  induction h generalizing i with
  | nil => exact .nil
  | cons first rest ih =>
    cases i with
    | zero =>
      cases partner
      exact .cons pair rest
    | succ i => exact .cons first (ih partner)

theorem forall₂_eraseIdx (h : List.Forall₂ R as bs) (i : Nat) :
    List.Forall₂ R (as.eraseIdx i) (bs.eraseIdx i) := by
  rw [List.eraseIdx_eq_take_drop_succ, List.eraseIdx_eq_take_drop_succ]
  exact List.rel_append (List.forall₂_take i h) (List.forall₂_drop (i + 1) h)

end Pairs

/-! ## Deliveries in a crew -/

/-- Whether a run has not been handled. -/
def Run.isWorking : Run δ → Bool
  | .working _ => true
  | _ => false

/-- The delivery that a task joins with. -/
def CrewTask.delivery? : CrewTask → Option Delivery
  | .delivery (.arrived d) => some d
  | _ => none

/-- Whether a task is a delivery that is not over. -/
def CrewTask.isOpen : CrewTask → Bool
  | .delivery (.done _) => false
  | .delivery _ => true
  | .registration _ => false

/-- A task that is over stays so. -/
theorem CrewTask.isOpen_turn {t : CrewTask} (closed : t.isOpen = false) (r : Reconciler) (w : World) :
    (t.turn r w).task.isOpen = false := by
  cases t with
  | registration g => rfl
  | delivery h =>
    cases h with
    | done result => rfl
    | arrived | found | refreshed | saved => exact nomatch closed

namespace Crew

variable {r : Reconciler} {c : Crew}

/-- **The deliveries that were given to a crew** to process, in order. -/
def deliveries (c : Crew) : List Delivery := c.joined.filterMap CrewTask.delivery?

/-- **The numbers of the deliveries that are being processed.** -/
def processing (c : Crew) : List Nat :=
  (List.range c.tasks.length).filter fun k => c.tasks[k]?.any CrewTask.isOpen

/-- The task of a number is over. -/
def Over (c : Crew) (k : Nat) : Prop := ∃ t, c.tasks[k]? = some t ∧ t.isOpen = false

theorem mem_processing {k : Nat} :
    k ∈ c.processing ↔ ∃ t, c.tasks[k]? = some t ∧ t.isOpen = true := by
  rw [processing, List.mem_filter, List.mem_range, Option.any_eq_true]
  constructor
  · rintro ⟨-, stands⟩
    exact stands
  · rintro ⟨t, held, still⟩
    exact ⟨(List.getElem?_eq_some_iff.mp held).1, t, held, still⟩

theorem nodup_processing (c : Crew) : c.processing.Nodup := List.nodup_range.filter _

theorem Over.notMem {k : Nat} (h : c.Over k) : k ∉ c.processing := by
  obtain ⟨t, held, closed⟩ := h
  intro mem
  obtain ⟨u, held', still⟩ := mem_processing.mp mem
  cases held.symm.trans held'
  exact nomatch closed.symm.trans still

theorem mem_processing_or_over {k : Nat} (h : k < c.tasks.length) : k ∈ c.processing ∨ c.Over k := by
  have held := List.getElem?_eq_getElem h
  cases open? : c.tasks[k].isOpen with
  | true => exact .inl (mem_processing.mpr ⟨_, held, open?⟩)
  | false => exact .inr ⟨_, held, open?⟩

/-- **No event changes that a task is over.** -/
theorem Over.step {k : Nat} (h : c.Over k) (r : Reconciler) (e : CrewEvent) :
    (c.step r e).Over k := by
  obtain ⟨t, held, closed⟩ := h
  have bound : k < c.tasks.length := (List.getElem?_eq_some_iff.mp held).1
  cases e with
  | deliver d => exact ⟨t, by rwa [Crew.step, join, List.getElem?_append_left bound], closed⟩
  | register address => exact ⟨t, by rwa [Crew.step, join, List.getElem?_append_left bound], closed⟩
  | advance j =>
    cases moved : c.tasks[j]? with
    | none =>
      rw [step_advance_none moved]
      exact ⟨t, held, closed⟩
    | some u =>
      rw [step_advance moved]
      by_cases own : k = j
      · subst own
        cases held.symm.trans moved
        exact ⟨_, task_take_self held _, CrewTask.isOpen_turn closed r c.world⟩
      · exact ⟨t, (task_take_of_ne own _).trans held, closed⟩

/-- **What is being processed after an event** was so before, but for a delivery that joins. -/
theorem mem_processing_step {k : Nat} {e : CrewEvent} (h : k ∈ (c.step r e).processing) :
    k ∈ c.processing ∨ (k = c.tasks.length ∧ ∃ d, e = .deliver d) := by
  obtain ⟨t, held, still⟩ := mem_processing.mp h
  have bound : k < (c.step r e).tasks.length := (List.getElem?_eq_some_iff.mp held).1
  by_cases old : k < c.tasks.length
  · refine .inl ((mem_processing_or_over old).resolve_right fun closed => ?_)
    exact (closed.step r e).notMem h
  · cases e with
    | deliver d =>
      rw [Crew.step, join, List.length_append, List.length_singleton] at bound
      exact .inr ⟨by omega, d, rfl⟩
    | register address =>
      rw [Crew.step, join, List.length_append, List.length_singleton] at bound
      have last : k = c.tasks.length := by omega
      rw [last, Crew.step, join, List.getElem?_concat_length] at held
      cases held
      exact absurd still Bool.false_ne_true
    | advance j =>
      have same : (c.step r (.advance j)).tasks.length = c.tasks.length := by
        cases moved : c.tasks[j]? with
        | none => rw [step_advance_none moved]
        | some u => rw [step_advance moved, take, List.length_set]
      exact absurd (same ▸ bound) old

/-- A crew is given the deliveries that join, and no others. -/
theorem deliveries_step (r : Reconciler) (c : Crew) (e : CrewEvent) :
    (c.step r e).deliveries = c.deliveries ++ match e with
      | .deliver d => [d]
      | _ => [] := by
  cases e with
  | deliver d =>
    rw [deliveries, Crew.step, join, List.filterMap_append]
    rfl
  | register address =>
    rw [deliveries, Crew.step, join, List.filterMap_append]
    rfl
  | advance j =>
    cases moved : c.tasks[j]? with
    | none =>
      rw [step_advance_none moved]
      exact (List.append_nil _).symm
    | some u =>
      rw [step_advance moved]
      exact (List.append_nil _).symm

end Crew

/-- The event of the consumer that an event is, if it is one. -/
def BusyEvent.consumer? : BusyEvent → Option (ConsumerEvent Delivery)
  | .consumer e => some e
  | _ => none

namespace BusyWorkshop

variable {r : Reconciler} {s s' : BusyWorkshop}

/-! ## One event of a workshop -/

/-- **The runs of a consumer and the tasks of a crew belong together:** a delivery is given to the
crew when it gets a permit, what is being processed has the number of a run, and a run that has been
handled has the number of a task that is over. -/
structure Staffed (s : BusyWorkshop) : Prop where
  given : s.crew.deliveries = s.consumer.started
  numbered : s.crew.processing ⊆ s.numbers
  handled : List.Forall₂ (fun run k => run.isWorking = true ∨ s.crew.Over k) s.consumer.running
    s.numbers

theorem staffed_opened (buffer prefetch : Nat) (w : World) : (opened buffer prefetch w).Staffed where
  given := rfl
  numbered := List.nil_subset _
  handled := .nil

/-- An event of the crew that gives it no delivery concerns no run. -/
theorem Staffed.crew_step (h : s.Staffed) (r : Reconciler) {e : CrewEvent}
    (other : ∀ d, e ≠ .deliver d) : Staffed { s with crew := s.crew.step r e } where
  given := by
    rw [← h.given, Crew.deliveries_step]
    cases e with
    | deliver d => exact absurd rfl (other d)
    | register | advance => exact List.append_nil _
  numbered := by
    intro k hk
    rcases Crew.mem_processing_step hk with old | ⟨-, d, joins⟩
    · exact h.numbered old
    · exact absurd joins (other d)
  handled := h.handled.imp fun _ _ => Or.imp_right fun closed => closed.step r e

/-- A run that starts has the number of the task that joins. -/
theorem Staffed.start (h : s.Staffed) (r : Reconciler) (d : Delivery) (c : Consumer Delivery)
    (running : c.running = s.consumer.running ++ [.working d])
    (started : c.started = s.consumer.started ++ [d]) :
    Staffed ⟨c, s.numbers ++ [s.crew.tasks.length], s.crew.step r (.deliver d)⟩ where
  given := by
    rw [Crew.deliveries_step, h.given, started]
  numbered := by
    intro k hk
    rw [List.mem_append, List.mem_singleton]
    rcases Crew.mem_processing_step hk with old | ⟨joined, -⟩
    · exact .inl (h.numbered old)
    · exact .inr joined
  handled := by
    rw [running]
    apply List.rel_append
    · exact h.handled.imp fun _ _ => Or.imp_right fun closed => closed.step r (.deliver d)
    · exact .cons (.inl rfl) .nil

/-- A run may be changed if its task is over. -/
theorem Staffed.set (h : s.Staffed) {i k : Nat} {run : Run Delivery} {c : Consumer Delivery}
    (number : s.numbers[i]? = some k) (closed : s.crew.Over k)
    (running : c.running = s.consumer.running.set i run) (started : c.started = s.consumer.started) :
    Staffed { s with consumer := c } where
  given := h.given.trans started.symm
  numbered := h.numbered
  handled := by
    rw [running]
    exact forall₂_set h.handled number (.inr closed)

theorem Staffed.release (h : s.Staffed) {i : Nat} {run : Run Delivery} {c : Consumer Delivery}
    (held : s.consumer.running[i]? = some run) (ended : run.isWorking = false)
    (running : c.running = s.consumer.running.eraseIdx i)
    (started : c.started = s.consumer.started) :
    Staffed { s with consumer := c, numbers := s.numbers.eraseIdx i } where
  given := h.given.trans started.symm
  numbered := by
    intro k hk
    obtain ⟨j, number, closed⟩ := exists_partner h.handled held
    obtain ⟨front, back, whole, -, erased⟩ := exists_around number
    have apart : k ≠ j := by
      rintro rfl
      exact (closed.resolve_left (by rw [ended]; decide)).notMem hk
    have mem := h.numbered hk
    rw [whole, List.mem_append, List.mem_cons] at mem
    show k ∈ s.numbers.eraseIdx i
    rw [erased, List.mem_append]
    exact mem.imp_right fun rest => rest.resolve_left apart
  handled := by
    rw [running]
    exact forall₂_eraseIdx h.handled i

theorem over_of_handled? {i : Nat} {success : Bool} (h : s.handled? i = some success) :
    ∃ k, s.numbers[i]? = some k ∧ s.crew.Over k := by
  unfold handled? at h
  split at h
  case h_1 result task =>
    obtain ⟨k, number, held⟩ := Option.bind_eq_some_iff.mp task
    exact ⟨k, number, _, held, rfl⟩
  case h_2 => exact nomatch h

/-- **Every event keeps runs and tasks together.** -/
theorem Staffed.next (h : s.Staffed) {e : BusyEvent} (next : s.Next r e s') : s'.Staffed := by
  cases next with
  | register address => exact h.crew_step r nofun
  | advance stands => exact h.crew_step r nofun
  | @start c d step waits =>
    cases Consumer.next_of_step step with
    | @start d' waits' permit =>
      cases waits.symm.trans waits'
      exact h.start r d _ rfl rfl
  | finish step closed =>
    obtain ⟨k, number, done⟩ := over_of_handled? closed
    cases Consumer.next_of_step step with
    | finish success runs => exact h.set number done rfl rfl
  | release step =>
    cases Consumer.next_of_step step with
    | release runs => exact h.release runs rfl rfl rfl
  | @other e c step starts finishes releases =>
    cases Consumer.next_of_step step with
    | start => exact absurd rfl starts
    | finish => exact absurd rfl (finishes _ _)
    | release => exact absurd rfl (releases _)
    | count runs =>
      obtain ⟨k, number, closed⟩ := exists_partner h.handled runs
      exact h.set number (closed.resolve_left nofun) rfl rfl
    | send | accept | newSender | dropSender | take | stop =>
      exact ⟨h.given, h.numbered, h.handled⟩

/-- **No more deliveries are being processed than there are runs.** -/
theorem Staffed.length_processing_le (h : s.Staffed) :
    s.crew.processing.length ≤ s.consumer.running.length := by
  rw [h.handled.length_eq]
  exact (List.subperm_of_subset s.crew.nodup_processing h.numbered).length_le

/-! ## Traces in changing circumstances -/

/-- The workshop after an event in some circumstances, if it can happen. -/
def stepIn (s : BusyWorkshop) (k : Crew.Circumstances) (e : BusyEvent) : Option BusyWorkshop :=
  { s with crew := { s.crew with world := { s.crew.world with logs := k.logs } } }.step k.reconciler e

/-- **The workshop after some events,** each in circumstances of its own, if they can happen one after
the other. -/
def traceIn (s : BusyWorkshop) : List (Crew.Circumstances × BusyEvent) → Option BusyWorkshop
  | [] => some s
  | (k, e) :: rest => (s.stepIn k e).bind fun s => s.traceIn rest

theorem Staffed.stepIn (h : s.Staffed) {k : Crew.Circumstances} {e : BusyEvent}
    (step : s.stepIn k e = some s') : s'.Staffed := by
  have met : Staffed { s with crew := { s.crew with world := { s.crew.world with logs := k.logs } } } :=
    ⟨h.given, h.numbered, h.handled⟩
  exact met.next (next_of_step step)

variable {events : List (Crew.Circumstances × BusyEvent)}

theorem Staffed.traceIn (h : s.Staffed) (trace : s.traceIn events = some s') : s'.Staffed := by
  induction events generalizing s with
  | nil =>
    obtain rfl := Option.some.inj trace
    exact h
  | cons event rest ih =>
    obtain ⟨middle, first, rest⟩ := Option.bind_eq_some_iff.mp trace
    exact ih (h.stepIn first) rest

/-- The consumer makes a step of its own, or none. -/
theorem Next.consumer {e : BusyEvent} (next : s.Next r e s') :
    s.consumer.trace e.consumer?.toList = some s'.consumer := by
  have single {e : ConsumerEvent Delivery} {c : Consumer Delivery}
      (step : s.consumer.step e = some c) : s.consumer.trace [e] = some c := by
    rw [Consumer.trace, step]
    rfl
  cases next with
  | register | advance => rfl
  | start step => exact single step
  | finish step => exact single step
  | release step => exact single step
  | other step => exact single step

/-- The events of the consumer among some events. -/
def consumerEvents (events : List (Crew.Circumstances × BusyEvent)) :
    List (ConsumerEvent Delivery) :=
  events.flatMap fun event => event.2.consumer?.toList

/-- **The consumer makes a trace of its own,** whatever is done in between. -/
theorem consumer_of_traceIn (trace : s.traceIn events = some s') :
    s.consumer.trace (consumerEvents events) = some s'.consumer := by
  induction events generalizing s with
  | nil =>
    obtain rfl := Option.some.inj trace
    rfl
  | cons event events ih =>
    obtain ⟨middle, first, rest⟩ := Option.bind_eq_some_iff.mp trace
    have step : s.consumer.trace event.2.consumer?.toList = some middle.consumer :=
      (next_of_step first).consumer
    rw [consumerEvents, List.flatMap_cons, Consumer.trace_append, step]
    exact ih rest

/-! ## The main theorem -/

/-- **Every accepted delivery is accounted for, and processed at most once.** For a queue of any length
and any number of permits, in every state that a workshop can come to, however sends, steps of the
consumer, steps of its tasks and registrations follow one another, and whatever chain, logs and
failures each of them meets with: no more deliveries are being processed than there are permits, and
no more are queued than the queue holds; the deliveries given to the crew, the one that waits and those
in the queue are the accepted ones in their order; each accepted delivery stands in the queue, waits,
is in progress or is counted once; and no more are counted than were received. -/
theorem deliveries_accounted_for {buffer prefetch : Nat} {w : World}
    (trace : (opened buffer prefetch w).traceIn events = some s) :
    let c := s.consumer
    let settled := (Consumer.idle buffer prefetch).settled (consumerEvents events)
    s.crew.processing.length ≤ max prefetch 1 ∧ c.queue.length ≤ max buffer 1 ∧
      s.crew.deliveries ++ c.waiting.toList ++ c.queue = c.accepted ∧
      c.accepted.Perm (c.queue ++ c.waiting.toList ++ c.inProgress ++ settled.map (·.1)) ∧
      c.stats.succeeded = settled.countP (·.2) ∧ c.stats.failed = settled.countP (!·.2) ∧
      c.stats.succeeded + c.stats.failed ≤ c.stats.received := by
  intro c settled
  have own : (Consumer.idle buffer prefetch).trace (consumerEvents events) = some c :=
    consumer_of_traceIn trace
  have books : c.Accounts settled := Consumer.accounts_of_trace own
  have staffed : s.Staffed := (staffed_opened buffer prefetch w).traceIn trace
  have limits : c.buffer = max buffer 1 ∧ c.prefetch = max prefetch 1 := Consumer.limits_of_trace own
  refine ⟨?_, ?_, ?_, books.accepted, books.succeeded, books.failed, books.counted_le⟩
  · calc s.crew.processing.length
      _ ≤ c.running.length := staffed.length_processing_le
      _ ≤ c.prefetch := books.permits
      _ = max prefetch 1 := limits.2
  · rw [← limits.1]
    exact books.room
  · rw [staffed.given]
    exact books.order

end BusyWorkshop

/-! ## One that waits -/

namespace SinglePermit

open LostUpdate

/-- No call fails, and no logs are stored. -/
def calm : Crew.Circumstances := ⟨reconciler, .memory .empty⟩

/-- Two senders send at once, and what is accepted first is handled to its end; it is counted, but has
not given its permit back. -/
def events : List (Crew.Circumstances × BusyEvent) :=
  [.consumer .newSender, .consumer (.send second), .consumer (.send first), .consumer (.accept 1),
    .consumer .take, .consumer .start, .advance 0, .consumer (.accept 0), .advance 0, .consumer .take,
    .register holder, .advance 0, .advance 1, .advance 0, .consumer (.finish 0 true),
    .consumer (.count 0)].map (calm, ·)

/-- The delivery that was sent first is accepted last, and has neither been lost nor been started. -/
theorem waiting_delivery_accounted_for :
    ∃ s, (BusyWorkshop.opened 1 0 world).traceIn events = some s ∧
      s.consumer.waiting = some second ∧ s.consumer.stats = ⟨2, 1, 0⟩ ∧
      s.crew.deliveries ++ [second] = s.consumer.accepted ∧
      s.consumer.accepted.Perm [second, first] := by
  have reached : ∃ s ∈ (BusyWorkshop.opened 1 0 world).traceIn events,
      s.consumer.waiting = some second ∧ s.consumer.stats = ⟨2, 1, 0⟩ ∧ s.consumer.queue = [] ∧
      s.consumer.inProgress = [] ∧
      (Consumer.idle 1 0).settled (BusyWorkshop.consumerEvents events) = [(first, true)] := by
    decide +kernel
  obtain ⟨s, trace, waiting, stats, queue, inProgress, settled⟩ := reached
  obtain ⟨-, -, order, kept, -⟩ := BusyWorkshop.deliveries_accounted_for trace
  rw [waiting, queue, List.append_nil] at order
  rw [waiting, queue, inProgress, settled] at kept
  exact ⟨s, trace, waiting, stats, order, kept⟩

end SinglePermit

end TransferLedger
