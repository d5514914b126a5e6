/-
# TransferLedger.Proofs.Service.Drain -- what is left when a consumer has stopped

A consumer that stops has no sender left, an empty queue and no delivery that waits for a permit. Of
its runs it only knows that so many permits were free as it asks for at the end. If these are all its
permits then nothing is in progress any more, and every accepted delivery is counted. It asks for them
in a number of 32 bits, so these are all of them exactly if their number has no more bits than that.
-/

import TransferLedger.Proofs.Service.Deliveries

namespace TransferLedger

namespace Consumer

variable {δ : Type} {c c' : Consumer δ} {e : ConsumerEvent δ}

/-! ## After the stop -/

/-- **A consumer that may stop:** nothing more can come, and the permits that it asks for at the end
are free. -/
structure Quiet (c : Consumer δ) : Prop where
  senders : c.senders = 0
  sending : c.sending = []
  queue : c.queue = []
  waiting : c.waiting = none
  free : c.finalPermits + c.running.length ≤ c.prefetch

/-- Nothing new begins in a quiet consumer. Its runs go on, and give their permits back. -/
theorem Quiet.next (h : c.Quiet) (next : c.Next e c') : c'.Quiet := by
  cases next with
  | send d left => exact absurd h.senders left
  | accept sent room => simp only [h.sending, List.getElem?_nil, reduceCtorEq] at sent
  | newSender left => exact absurd h.senders left
  | dropSender idle => exact absurd (.inl h.senders) idle
  | take free first => exact nomatch h.queue.symm.trans first
  | start waits permit => exact nomatch h.waiting.symm.trans waits
  | finish success runs =>
    refine { h with free := ?_ }
    rw [List.length_set]
    exact h.free
  | count runs =>
    refine { h with free := ?_ }
    rw [List.length_set]
    exact h.free
  | release runs =>
    refine { h with free := ?_ }
    exact Nat.le_trans (Nat.add_le_add_left (List.length_eraseIdx_le _ _) _) h.free
  | stop closed => exact { h with }

/-- A consumer that has stopped is quiet. -/
def QuietOnceStopped (c : Consumer δ) : Prop := c.stopped = true → c.Quiet

theorem quietOnceStopped_idle (buffer prefetch : Nat) :
    (idle buffer prefetch : Consumer δ).QuietOnceStopped := nofun

theorem QuietOnceStopped.next (h : c.QuietOnceStopped) (next : c.Next e c') :
    c'.QuietOnceStopped := by
  intro stopped
  by_cases before : c.stopped = true
  · exact (h before).next next
  · -- it has stopped only just now
    cases next with
    | stop closed =>
      obtain ⟨senders, sending, queue, waiting, -, free⟩ := closed
      exact ⟨senders, sending, queue, waiting, free⟩
    | _ => exact absurd stopped before

theorem QuietOnceStopped.trace (h : c.QuietOnceStopped) {events : List (ConsumerEvent δ)}
    (trace : c.trace events = some c') : c'.QuietOnceStopped :=
  trace_induction h (fun next quiet => quiet.next next) trace

/-- **How much may be left:** no more runs than permits that are not asked for. -/
theorem Quiet.length_running_le (h : c.Quiet) : c.running.length ≤ c.prefetch - c.prefetch % 2 ^ 32 := by
  have free := h.free
  rw [finalPermits] at free
  omega

theorem Quiet.running_eq_nil (h : c.Quiet) (few : c.prefetch < 2 ^ 32) : c.running = [] := by
  have left := h.length_running_le
  rw [Nat.mod_eq_of_lt few, Nat.sub_self, Nat.le_zero] at left
  exact List.length_eq_zero_iff.mp left

section

variable {buffer prefetch : Nat} {events : List (ConsumerEvent δ)}

theorem quiet_of_trace (trace : (idle buffer prefetch).trace events = some c)
    (stopped : c.stopped = true) : c.Quiet :=
  (quietOnceStopped_idle buffer prefetch).trace trace stopped

/-- **With no more permits than a number of 32 bits can tell,** nothing is in progress after the stop. -/
theorem running_eq_nil_of_trace (few : prefetch < 2 ^ 32)
    (trace : (idle buffer prefetch).trace events = some c) (stopped : c.stopped = true) :
    c.running = [] := by
  have permits : c.prefetch = max prefetch 1 := (limits_of_trace trace).2
  exact (quiet_of_trace trace stopped).running_eq_nil (by omega)

end

/-- If nothing is on its way or in progress then every accepted delivery is counted. -/
theorem Accounts.counted_eq {results : List (δ × Bool)} (h : Accounts results c) (quiet : c.Quiet)
    (ended : c.running = []) :
    c.stats.received = c.accepted.length ∧
      c.stats.succeeded + c.stats.failed = c.accepted.length := by
  have every : results.length = results.countP (·.2) + results.countP (!·.2) := by
    simpa using List.length_eq_countP_add_countP (·.2) (l := results)
  have settled : c.accepted.length = results.length := by
    have kept := h.accepted.length_eq
    rw [quiet.queue, quiet.waiting, inProgress, ended] at kept
    simpa using kept
  refine ⟨?_, ?_⟩
  · rw [h.received, quiet.sending, List.length_nil, Nat.add_zero]
  · rw [h.succeeded, h.failed, settled, every]

end Consumer

namespace BusyWorkshop

open Consumer

variable {s : BusyWorkshop} {events : List (Crew.Circumstances × BusyEvent)}

/-- **A workshop without any work left:** no delivery is queued, waits or is being processed, and each
accepted one has been received and counted once. -/
structure Drained (s : BusyWorkshop) : Prop where
  queue : s.consumer.queue = []
  waiting : s.consumer.waiting = none
  running : s.consumer.running = []
  processing : s.crew.processing = []
  received : s.consumer.stats.received = s.consumer.accepted.length
  counted : s.consumer.stats.succeeded + s.consumer.stats.failed = s.consumer.accepted.length

/-- With no more permits than that, a workshop whose consumer has stopped has no work left. -/
theorem drained_of_stopped {buffer prefetch : Nat} {w : World} (few : prefetch < 2 ^ 32)
    (trace : (opened buffer prefetch w).traceIn events = some s)
    (stopped : s.consumer.stopped = true) : s.Drained := by
  have own : (idle buffer prefetch).trace (consumerEvents events) = some s.consumer :=
    consumer_of_traceIn trace
  have quiet : s.consumer.Quiet := quiet_of_trace own stopped
  have ended : s.consumer.running = [] := running_eq_nil_of_trace few own stopped
  obtain ⟨received, counted⟩ := (accounts_of_trace own).counted_eq quiet ended
  have staffed : s.Staffed := (staffed_opened buffer prefetch w).traceIn trace
  refine ⟨quiet.queue, quiet.waiting, ended, ?_, received, counted⟩
  have few := staffed.length_processing_le
  rw [ended, List.length_nil, Nat.le_zero] at few
  exact List.length_eq_zero_iff.mp few

/-! ## More permits than that -/

/-- A delivery gets a permit, the sender goes, and the consumer stops. -/
def leaving (k : Crew.Circumstances) (d : Delivery) : List (Crew.Circumstances × BusyEvent) :=
  ([.send d, .accept 0, .take, .start, .dropSender, .stop] : List (ConsumerEvent Delivery)).map
    fun e => (k, .consumer e)

/-- **A consumer with more permits stops while a delivery is being processed.** -/
theorem traceIn_leaving (buffer : Nat) {prefetch : Nat} (many : 2 ^ 32 ≤ prefetch) (w : World)
    (k : Crew.Circumstances) (d : Delivery) :
    ∃ s, (opened buffer prefetch w).traceIn (leaving k d) = some s ∧
      s.consumer.stopped = true ∧ s.consumer.running = [.working d] := by
  have room : 0 < max buffer 1 := by omega
  have permit : 0 < max prefetch 1 := by omega
  have free : max prefetch 1 % 2 ^ 32 + 1 ≤ max prefetch 1 := by omega
  simp [leaving, opened, idle, traceIn, stepIn, step, Consumer.step, finalPermits, room, permit, free]

/-! ## The main theorem -/

/-- **A consumer that has stopped has drained its workshop if its permits can be told in 32 bits, and
only then.** With no more of them, whatever was accepted, in whatever order the runs end and whatever
they meet with, nothing is queued or being processed any more, and received, succeeded and failed add
up to what was accepted. With more of them the consumer may stop too soon. -/
theorem drained_iff (buffer prefetch : Nat) (w : World) :
    (∀ events s, (opened buffer prefetch w).traceIn events = some s →
      s.consumer.stopped = true → s.Drained) ↔ prefetch < 2 ^ 32 := by
  constructor
  · intro all
    by_contra many
    obtain ⟨s, trace, stopped, left⟩ :=
      traceIn_leaving buffer (Nat.le_of_not_lt many) w SinglePermit.calm LostUpdate.first
    have ended := (all _ s trace stopped).running
    exact nomatch left.symm.trans ended
  · intro few events s trace stopped
    exact drained_of_stopped few trace stopped

end BusyWorkshop

namespace LeftBehind

open LostUpdate

/-- **A delivery is left behind:** with 2^32 permits, which a consumer can have, it stops at once
though the one delivery that it has received is still being processed. -/
theorem delivery_left_behind :
    Consumer.create 1 (2 ^ 32) = .ok (Consumer.idle 1 (2 ^ 32) : Consumer Delivery) ∧
      ∃ s, (BusyWorkshop.opened 1 (2 ^ 32) world).traceIn
          (BusyWorkshop.leaving SinglePermit.calm first) = some s ∧
        s.consumer.stopped = true ∧ s.crew.processing = [0] ∧ s.consumer.stats = ⟨1, 0, 0⟩ := by
  refine ⟨by decide +kernel, ?_⟩
  have reached : ∃ s ∈ (BusyWorkshop.opened 1 (2 ^ 32) world).traceIn
      (BusyWorkshop.leaving SinglePermit.calm first),
      s.consumer.stopped = true ∧ s.crew.processing = [0] ∧ s.consumer.stats = ⟨1, 0, 0⟩ := by
    decide +kernel
  exact reached

end LeftBehind

end TransferLedger
