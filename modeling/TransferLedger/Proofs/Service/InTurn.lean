/-
# TransferLedger.Proofs.Service.InTurn -- one permit, one delivery after the other

A delivery runs as a task of its own while the consumer takes the next one out of the queue and more
are sent. With a single permit this makes no difference. A run gives its permit back after it has
been counted, and the next one starts after that; so of all tasks one at most is not over, and what
the others have left in the world is what it would have found if it had been handled alone.

The invariant follows the one run from its start to its permit. At each place it says what the world,
the messages and the counters are, in terms of the deliveries that started before.
-/

import TransferLedger.Proofs.Reconcile.Atomic
import TransferLedger.Proofs.Service.Drain

namespace TransferLedger

/-! ## One delivery after the other -/

/-- **What some deliveries leave behind.** -/
structure Aftermath where
  world : World
  published : List RoutedUpdate
  succeeded : Nat
  failed : Nat
deriving DecidableEq

/-- One result more. -/
def Aftermath.count (a : Aftermath) (success : Bool) : Aftermath :=
  if success then { a with succeeded := a.succeeded + 1 } else { a with failed := a.failed + 1 }

/-- How many steps a delivery in progress may still take. -/
def Handling.remaining : Handling → Nat
  | .arrived _ => 4
  | .found _ _ => 3
  | .refreshed _ _ => 2
  | .saved _ _ => 1
  | .done _ => 0

theorem Handling.remaining_le (h : Handling) : h.remaining ≤ 4 := by
  cases h <;> simp only [remaining, Nat.le_refl, Nat.reduceLeDiff]

namespace Reconciler

/-- The message that goes with a result. -/
def message? (r : Reconciler) : Except Failure Outcome → Option RoutedUpdate
  | .ok (.updated u) => some ⟨r.routing.balance u.address, u⟩
  | _ => none

/-- **One delivery more,** handled from its arrival to its end. -/
def process (r : Reconciler) (a : Aftermath) (d : Delivery) : Aftermath :=
  let (result, world, _) := r.handle d a.world
  Aftermath.count
    { a with world := world, published := a.published ++ (r.message? result).toList } result.isOk

/-- What some deliveries leave behind that are handled one after the other. -/
def processAll (r : Reconciler) (w : World) (ds : List Delivery) : Aftermath :=
  ds.foldl r.process ⟨w, [], 0, 0⟩

theorem processAll_concat (r : Reconciler) (w : World) (ds : List Delivery) (d : Delivery) :
    r.processAll w (ds ++ [d]) = r.process (r.processAll w ds) d := by
  rw [processAll, List.foldl_append]
  rfl

/-! ## The end of a delivery in progress -/

/-- The end that a delivery in progress comes to if nothing comes in between, and the world then. -/
def ending (r : Reconciler) (h : Handling) (w : World) : Except Failure Outcome × World :=
  (result (r.steps 4 h w).1, (r.steps 4 h w).2.1)

theorem ending_done (r : Reconciler) (o : Except Failure Outcome) (w : World) :
    r.ending (.done o) w = (o, w) := by
  rw [ending, steps_done]
  rfl

theorem ending_arrived (r : Reconciler) (d : Delivery) (w : World) :
    r.ending (.arrived d) w = ((r.handle d w).1, (r.handle d w).2.1) := rfl

/-- A step leaves a delivery with a step less to take. -/
theorem remaining_step (r : Reconciler) (h : Handling) (w : World) :
    (r.step h w).1.remaining ≤ h.remaining - 1 := by
  have does := r.stepped h w
  generalize r.step h w = next at does ⊢
  cases does with
  | found | refreshed | saved | told => exact Nat.le_refl _
  | dropped | unread | unsaved | untold | done => exact Nat.zero_le _

/-- Enough steps bring every delivery to its end. -/
theorem done_of_remaining_le (r : Reconciler) {k : Nat} {h : Handling} (enough : h.remaining ≤ k)
    (w : World) : ∃ o, (r.steps k h w).1 = .done o := by
  induction k generalizing h w with
  | zero =>
    cases h with
    | done o => exact ⟨o, rfl⟩
    | _ => exact absurd enough (by simp [Handling.remaining])
  | succ k ih =>
    have left : (r.step h w).1.remaining ≤ k :=
      Nat.le_trans (remaining_step r h w) (Nat.sub_le_of_le_add enough)
    exact ih left (r.step h w).2.1

/-- **A step brings a delivery nearer to the same end.** -/
theorem ending_step (r : Reconciler) (h : Handling) (w : World) :
    r.ending (r.step h w).1 (r.step h w).2.1 = r.ending h w := by
  obtain ⟨o, ended⟩ := done_of_remaining_le r h.remaining_le w
  -- four steps after a first one are one step after the first four
  have first : r.steps 5 h w = ((r.steps 4 (r.step h w).1 (r.step h w).2.1).1,
      (r.steps 4 (r.step h w).1 (r.step h w).2.1).2.1,
      (r.step h w).2.2 ++ (r.steps 4 (r.step h w).1 (r.step h w).2.1).2.2) := rfl
  have last := steps_last (r := r) 4 h w
  rw [ended, step_done, first, Prod.mk.injEq, Prod.mk.injEq] at last
  rw [ending, ending, last.1, last.2.1, ended]

/-- The message that a delivery in progress has published so far. -/
def toldBy (r : Reconciler) : Handling → Option RoutedUpdate
  | .done o => r.message? o
  | _ => none

/-- **A step publishes what is told after it and was not told before.** -/
theorem toldBy_step (r : Reconciler) (h : Handling) (w : World) :
    (r.toldBy h).toList ++ (h.published? r.routing (r.step h w).1).toList =
      (r.toldBy (r.step h w).1).toList := by
  have does := r.stepped h w
  generalize r.step h w = next at does ⊢
  cases does with
  | @dropped d o silent =>
    match o, silent with
    | .error e, _ => rfl
    | .ok (.skipped address), _ => rfl
    | .ok (.updated u), silent => exact absurd rfl (silent u)
  | done o => exact List.append_nil _
  | found | refreshed | unread | saved | unsaved | told | untold => rfl

/-- **A delivery that has begun in a certain aftermath and is on its way to its end.** -/
structure Partway (r : Reconciler) (a : Aftermath) (d : Delivery) (h : Handling) (w : World)
    (published : List RoutedUpdate) : Prop where
  /-- The end is the one that it would have come to at once. -/
  ending : r.ending h w = r.ending (.arrived d) a.world
  told : published = a.published ++ (r.toldBy h).toList

theorem Partway.begin (r : Reconciler) (a : Aftermath) (d : Delivery) :
    r.Partway a d (.arrived d) a.world a.published where
  ending := rfl
  told := (List.append_nil _).symm

variable {r : Reconciler} {a : Aftermath} {d : Delivery} {h : Handling} {w : World}
  {published : List RoutedUpdate}

theorem Partway.step (way : r.Partway a d h w published) :
    r.Partway a d (r.step h w).1 (r.step h w).2.1
      (published ++ (h.published? r.routing (r.step h w).1).toList) where
  ending := (ending_step r h w).trans way.ending
  told := by rw [way.told, List.append_assoc, toldBy_step]

/-- At its end a delivery has done what it would have done alone. -/
theorem Partway.done {o : Except Failure Outcome} (way : r.Partway a d (.done o) w published) :
    Aftermath.count ⟨w, published, a.succeeded, a.failed⟩ o.isOk = r.process a d := by
  have ending := way.ending
  rw [ending_done, ending_arrived, Prod.mk.injEq] at ending
  obtain ⟨rfl, rfl⟩ := ending
  rw [process, way.told]
  rfl

end Reconciler

/-! ## The one run -/

namespace BusyWorkshop

variable {r : Reconciler} {w : World} {s s' : BusyWorkshop}

/-- What has been left behind so far. -/
def aftermath (s : BusyWorkshop) : Aftermath :=
  ⟨s.crew.world, s.crew.published, s.consumer.stats.succeeded, s.consumer.stats.failed⟩

/-- **Where the one run is,** and what the deliveries that started have left behind by then. -/
inductive InTurn (r : Reconciler) (w : World) (s : BusyWorkshop) : Prop
  /-- No run holds the permit. -/
  | free (runs : s.consumer.running = []) (left : s.aftermath = r.processAll w s.consumer.started)
  /-- One delivery is on its way, after the others. -/
  | working {before : List Delivery} {d : Delivery} {k : Nat} {h : Handling}
      (runs : s.consumer.running = [.working d]) (started : s.consumer.started = before ++ [d])
      (number : s.numbers = [k]) (task : s.crew.tasks[k]? = some (.delivery h))
      (way : r.Partway (r.processAll w before) d h s.crew.world s.crew.published)
      (succeeded : s.consumer.stats.succeeded = (r.processAll w before).succeeded)
      (failed : s.consumer.stats.failed = (r.processAll w before).failed)
  /-- The last delivery has come to its end and is not counted yet. -/
  | handled {d : Delivery} {success : Bool} (runs : s.consumer.running = [.handled d success])
      (left : s.aftermath.count success = r.processAll w s.consumer.started)
  /-- The last delivery is counted and has not given its permit back yet. -/
  | counted {d : Delivery} {success : Bool} (runs : s.consumer.running = [.counted d success])
      (left : s.aftermath = r.processAll w s.consumer.started)

theorem inTurn_opened (r : Reconciler) (w : World) (buffer prefetch : Nat) :
    InTurn r w (opened buffer prefetch w) :=
  .free rfl rfl

/-- Only the runs, the crew and the counters matter. -/
theorem InTurn.congr (h : InTurn r w s) (running : s'.consumer.running = s.consumer.running)
    (started : s'.consumer.started = s.consumer.started) (numbers : s'.numbers = s.numbers)
    (crew : s'.crew = s.crew) (succeeded : s'.consumer.stats.succeeded = s.consumer.stats.succeeded)
    (failed : s'.consumer.stats.failed = s.consumer.stats.failed) : InTurn r w s' := by
  have left : s'.aftermath = s.aftermath := by
    rw [aftermath, aftermath, crew, succeeded, failed]
  cases h with
  | free runs done => exact .free (running.trans runs) (by rw [left, started, done])
  | working runs start number task way good bad =>
    rw [← crew] at task way
    exact .working (running.trans runs) (started.trans start) (numbers.trans number) task way
      (succeeded.trans good) (failed.trans bad)
  | handled runs done => exact .handled (running.trans runs) (by rw [left, started, done])
  | counted runs done => exact .counted (running.trans runs) (by rw [left, started, done])

/-- A crew whose tasks are deliveries. -/
def DeliveriesOnly (c : Crew) : Prop := ∀ t ∈ c.tasks, ∃ h, t = .delivery h

/-- Nothing is being processed if every run has been handled. -/
theorem Staffed.processing_eq_nil (h : s.Staffed)
    (handled : ∀ run ∈ s.consumer.running, run.isWorking = false) : s.crew.processing = [] := by
  rw [List.eq_nil_iff_forall_not_mem]
  intro k mem
  obtain ⟨i, number⟩ := List.mem_iff_getElem?.mp (h.numbered mem)
  obtain ⟨run, held, partner⟩ := exists_partner h.handled.flip number
  have closed : run.isWorking = false := handled run (List.mem_of_getElem? held)
  exact (partner.resolve_left (by rw [closed]; exact Bool.false_ne_true)).notMem mem

/-- A delivery that is over takes no step any more. -/
theorem step_advance_over {c : Crew} (only : DeliveriesOnly c) {k : Nat} (ended : c.Over k) :
    c.step r (.advance k) = c := by
  obtain ⟨t, held, closed⟩ := ended
  obtain ⟨h, rfl⟩ := only t (List.mem_of_getElem? held)
  match h, closed with
  | .done o, _ =>
    rw [Crew.step_advance held]
    exact Crew.take_same held

/-- A step of a task is one of the delivery on its way, or it changes nothing. -/
theorem InTurn.advance (h : InTurn r w s) (staffed : s.Staffed) (only : DeliveriesOnly s.crew)
    {k : Nat} (stands : k < s.crew.tasks.length) :
    InTurn r w { s with crew := s.crew.step r (.advance k) } := by
  have idle (handled : ∀ run ∈ s.consumer.running, run.isWorking = false)
      (h : InTurn r w s) : InTurn r w { s with crew := s.crew.step r (.advance k) } := by
    have none := staffed.processing_eq_nil handled
    have ended := (Crew.mem_processing_or_over stands).resolve_left (by simp [none])
    exact h.congr rfl rfl rfl (step_advance_over only ended) rfl rfl
  cases h with
  | free runs left => exact idle (by simp [runs]) (.free runs left)
  | handled runs left => exact idle (by simp [runs, Run.isWorking]) (.handled runs left)
  | counted runs left => exact idle (by simp [runs, Run.isWorking]) (.counted runs left)
  | @working before d j h runs started number task way succeeded failed =>
    by_cases own : k = j
    · subst own
      have moved : s.crew.step r (.advance k) = s.crew.take k ((CrewTask.delivery h).turn r s.crew.world) :=
        Crew.step_advance task
      rw [moved]
      exact .working runs started number (Crew.task_take_self task _) way.step succeeded failed
    · have ended : s.crew.Over k := by
        refine (Crew.mem_processing_or_over stands).resolve_left fun mem => own ?_
        have numbered := staffed.numbered mem
        rwa [number, List.mem_singleton] at numbered
      exact InTurn.congr (.working runs started number task way succeeded failed) rfl rfl rfl
        (step_advance_over only ended) rfl rfl

/-- The run that comes to its end is the delivery on its way. -/
theorem InTurn.finish (h : InTurn r w s) {i : Nat} {d : Delivery} {success : Bool}
    (held : s.consumer.running[i]? = some (.working d)) (closed : s.handled? i = some success) :
    InTurn r w { s with
      consumer := { s.consumer with running := s.consumer.running.set i (.handled d success) } } := by
  cases h with
  | free runs left => simp [runs] at held
  | handled runs left => simp [runs, List.getElem?_singleton] at held
  | counted runs left => simp [runs, List.getElem?_singleton] at held
  | @working before d' k h runs started number task way succeeded failed =>
    obtain ⟨rfl, rfl⟩ : i = 0 ∧ d' = d := by
      simpa [runs, List.getElem?_singleton] using held
    match h, task, way with
    | .done o, task, way =>
      have ended : o.isOk = success := by
        simpa [handled?, number, task] using closed
      have now : s.consumer.running.set 0 (.handled d' success) = [.handled d' success] := by
        rw [runs]
        rfl
      refine .handled now ?_
      show Aftermath.count s.aftermath success = r.processAll w s.consumer.started
      rw [started, Reconciler.processAll_concat, ← way.done, ended, aftermath, succeeded, failed]
    | .arrived _, task, _ | .found _ _, task, _ | .refreshed _ _, task, _ | .saved _ _, task, _ =>
      simp [handled?, number, task] at closed

/-- The run that is counted is the one that has come to its end. -/
theorem InTurn.count (h : InTurn r w s) {i : Nat} {d : Delivery} {success : Bool}
    (held : s.consumer.running[i]? = some (.handled d success)) :
    InTurn r w { s with
      consumer := { s.consumer with
        running := s.consumer.running.set i (.counted d success)
        stats := s.consumer.stats.count success } } := by
  cases h with
  | free runs left => simp [runs] at held
  | working runs => simp [runs, List.getElem?_singleton] at held
  | counted runs left => simp [runs, List.getElem?_singleton] at held
  | @handled d' success' runs left =>
    obtain ⟨rfl, rfl, rfl⟩ : i = 0 ∧ d' = d ∧ success' = success := by
      simpa [runs, List.getElem?_singleton] using held
    have now : s.consumer.running.set 0 (.counted d' success') = [.counted d' success'] := by
      rw [runs]
      rfl
    refine .counted now ?_
    show _ = r.processAll w s.consumer.started
    rw [← left]
    cases success' <;> rfl

/-- The permit that is given back is that of the run that is counted. -/
theorem InTurn.release (h : InTurn r w s) {i : Nat} {d : Delivery} {success : Bool}
    (held : s.consumer.running[i]? = some (.counted d success)) :
    InTurn r w { s with
      consumer := { s.consumer with running := s.consumer.running.eraseIdx i }
      numbers := s.numbers.eraseIdx i } := by
  cases h with
  | free runs left => simp [runs] at held
  | working runs => simp [runs, List.getElem?_singleton] at held
  | handled runs left => simp [runs, List.getElem?_singleton] at held
  | counted runs left =>
    obtain ⟨rfl, -, -⟩ : i = 0 ∧ _ ∧ _ := by
      simpa [runs, List.getElem?_singleton] using held
    refine .free ?_ left
    show s.consumer.running.eraseIdx 0 = []
    rw [runs]
    rfl

/-- **Every event but a registration keeps the deliveries in turn.** -/
theorem InTurn.next (h : InTurn r w s) (single : s.consumer.prefetch = 1) (staffed : s.Staffed)
    (only : DeliveriesOnly s.crew) {e : BusyEvent} (alone : ∀ address, e ≠ .register address)
    (next : s.Next r e s') : InTurn r w s' := by
  cases next with
  | register address => exact absurd rfl (alone address)
  | advance stands => exact h.advance staffed only stands
  | @start c d step waits =>
    cases Consumer.next_of_step step with
    | @start d' waits' permit =>
      cases waits.symm.trans waits'
      -- the one permit is free, so that no run is left
      have runs : s.consumer.running = [] := by
        rw [single, Nat.lt_one_iff] at permit
        exact List.length_eq_zero_iff.mp permit
      have number : s.numbers = [] := by
        have pairs := staffed.handled
        rwa [runs, List.forall₂_nil_left_iff] at pairs
      cases h with
      | free _ left =>
        rw [aftermath] at left
        refine .working (k := s.crew.tasks.length) ?_ rfl ?_ List.getElem?_concat_length ?_ ?_ ?_
        · show s.consumer.running ++ [.working d] = [.working d]
          rw [runs, List.nil_append]
        · show s.numbers ++ [s.crew.tasks.length] = [s.crew.tasks.length]
          rw [number, List.nil_append]
        · rw [← left]
          exact .begin r _ d
        · rw [← left]
        · rw [← left]
      | working held => exact nomatch runs.symm.trans held
      | handled held => exact nomatch runs.symm.trans held
      | counted held => exact nomatch runs.symm.trans held
  | finish step closed =>
    cases Consumer.next_of_step step with
    | finish success held => exact h.finish held closed
  | release step =>
    cases Consumer.next_of_step step with
    | release held => exact h.release held
  | @other e c step starts finishes releases =>
    cases Consumer.next_of_step step with
    | start => exact absurd rfl starts
    | finish => exact absurd rfl (finishes _ _)
    | release => exact absurd rfl (releases _)
    | count held => exact h.count held
    | send | accept | newSender | dropSender | take | stop =>
      exact h.congr rfl rfl rfl rfl rfl rfl

theorem deliveriesOnly_next (only : DeliveriesOnly s.crew) {e : BusyEvent}
    (alone : ∀ address, e ≠ .register address) (next : s.Next r e s') : DeliveriesOnly s'.crew := by
  cases next with
  | register address => exact absurd rfl (alone address)
  | @advance k stands =>
    intro t mem
    obtain ⟨h, task⟩ := only _ (List.getElem_mem stands)
    have held : s.crew.tasks[k]? = some (.delivery h) := by
      rw [List.getElem?_eq_getElem stands, task]
    rw [Crew.step_advance held] at mem
    rcases List.mem_or_eq_of_mem_set mem with old | rfl
    · exact only t old
    · exact ⟨_, rfl⟩
  | @start c d step waits =>
    intro t mem
    rcases List.mem_append.mp mem with old | new
    · exact only t old
    · exact ⟨_, List.mem_singleton.mp new⟩
  | finish | release | other => exact only

/-! ## Traces -/

/-- **The consumer makes a trace of its own.** -/
theorem consumer_of_trace {events : List BusyEvent} (trace : s.trace r events = some s') :
    s.consumer.trace (events.flatMap fun e => e.consumer?.toList) = some s'.consumer := by
  induction events generalizing s with
  | nil =>
    obtain rfl := Option.some.inj trace
    rfl
  | cons e events ih =>
    obtain ⟨middle, first, rest⟩ := Option.bind_eq_some_iff.mp trace
    rw [List.flatMap_cons, Consumer.trace_append, (next_of_step first).consumer]
    exact ih rest

/-- **With a single permit the deliveries of every trace are in turn.** -/
theorem InTurn.trace (h : InTurn r w s) (single : s.consumer.prefetch = 1) (staffed : s.Staffed)
    (only : DeliveriesOnly s.crew) {events : List BusyEvent} (trace : s.trace r events = some s')
    (alone : ∀ address, .register address ∉ events) : InTurn r w s' := by
  induction events generalizing s with
  | nil =>
    obtain rfl := Option.some.inj trace
    exact h
  | cons e events ih =>
    obtain ⟨middle, first, rest⟩ := Option.bind_eq_some_iff.mp trace
    have next : s.Next r e middle := next_of_step first
    have delivery (address : String) : e ≠ .register address :=
      fun same => alone address (same ▸ List.mem_cons_self)
    have permits : middle.consumer.prefetch = 1 :=
      (Consumer.limits_of_trace next.consumer).2.trans single
    exact ih (h.next single staffed only delivery next) permits (staffed.next next)
      (deliveriesOnly_next only delivery next) rest
      fun address later => alone address (List.mem_cons_of_mem e later)

/-! ## The main theorem -/

/-- Nothing is queued, waits or is in progress. -/
structure Resting (s : BusyWorkshop) : Prop where
  queue : s.consumer.queue = []
  waiting : s.consumer.waiting = none
  running : s.consumer.running = []

/-- **With a single permit the deliveries are handled one after the other.** Asking for none comes to
the same as asking for one. For a queue of any length, whatever is sent by however many senders, and
however the sends, the steps of the consumer and those of its tasks follow one another: a consumer that
has stopped is at rest, and whenever it is at rest, the world, the messages published and the counters
are exactly what the accepted deliveries leave behind if they are handled one after the other in the
order of the queue. -/
theorem single_permit_in_turn {buffer prefetch : Nat} {events : List BusyEvent}
    (single : prefetch ≤ 1) (alone : ∀ address, .register address ∉ events)
    (trace : (opened buffer prefetch w).trace r events = some s) :
    (s.consumer.stopped = true → s.Resting) ∧
      (s.Resting → s.aftermath = r.processAll w s.consumer.accepted) := by
  have own := consumer_of_trace trace
  have permits : (opened buffer prefetch w).consumer.prefetch = 1 := Nat.max_eq_right single
  constructor
  · intro stopped
    have quiet : s.consumer.Quiet := Consumer.quiet_of_trace own stopped
    have few : prefetch < 2 ^ 32 := Nat.lt_of_le_of_lt single (by decide)
    exact ⟨quiet.queue, quiet.waiting, Consumer.running_eq_nil_of_trace few own stopped⟩
  · intro rest
    have turns : InTurn r w s :=
      (inTurn_opened r w buffer prefetch).trace permits (staffed_opened buffer prefetch w)
        (fun _ mem => nomatch mem) trace alone
    -- at rest all that was accepted has started
    have order := (Consumer.accounts_of_trace own).order
    rw [rest.waiting, rest.queue, Option.toList_none, List.append_nil, List.append_nil] at order
    cases turns with
    | free runs left => rw [left, order]
    | working runs => exact nomatch rest.running.symm.trans runs
    | handled runs => exact nomatch rest.running.symm.trans runs
    | counted runs => exact nomatch rest.running.symm.trans runs

end BusyWorkshop

namespace TakenInTurn

open LostUpdate

/-- Two senders send at once. The second delivery is accepted while the first one waits, it waits
itself while that one is handled, and the senders leave one by one in between. -/
def events : List BusyEvent :=
  [.consumer .newSender, .consumer (.send first), .consumer (.send second), .consumer (.accept 1),
    .consumer .take, .consumer (.accept 0), .consumer .start, .advance 0, .consumer .take, .advance 0,
    .advance 0, .consumer .dropSender, .advance 0, .consumer (.finish 0 true), .consumer (.count 0),
    .advance 0, .consumer (.release 0), .consumer .start, .advance 1, .advance 1, .advance 1,
    .consumer .dropSender, .advance 1, .consumer (.finish 0 true), .consumer (.count 0),
    .consumer (.release 0), .consumer .stop]

/-- What they leave behind is what they leave if the one that was accepted first is handled first. -/
theorem two_senders_in_turn :
    ∃ s, (BusyWorkshop.opened 1 0 world).trace reconciler events = some s ∧
      s.consumer.stopped = true ∧ s.Resting ∧ s.consumer.stats = ⟨2, 2, 0⟩ ∧
      s.crew.published.length = 2 ∧
      s.aftermath = reconciler.processAll world [second, first] := by
  have reached : ∃ s ∈ (BusyWorkshop.opened 1 0 world).trace reconciler events,
      s.consumer.stopped = true ∧ s.consumer.accepted = [second, first] ∧
      s.consumer.stats = ⟨2, 2, 0⟩ ∧ s.crew.published.length = 2 := by
    decide +kernel
  obtain ⟨s, trace, stopped, accepted, stats, published⟩ := reached
  obtain ⟨rests, left⟩ :=
    BusyWorkshop.single_permit_in_turn (by decide : 0 ≤ 1) (by simp [events]) trace
  have rest : s.Resting := rests stopped
  exact ⟨s, trace, stopped, rest, stats, published, accepted ▸ left rest⟩

end TakenInTurn

end TransferLedger
