/-
# TransferLedger.Proofs.Service.OneThread -- one thread does nothing that could not happen

Whatever the order of turns on one thread, every turn is made of events of the consumer. So what holds
of a consumer after every trace holds when its sender finds that it has stopped; with no more permits
than a number of 32 bits can tell, every delivery is counted by then.
-/

import TransferLedger.Proofs.Service.Drain
import TransferLedger.Reconcile.OneThread

namespace TransferLedger

/-- A consumer comes to another state by some events. -/
def Consumer.Reaches (c c' : Consumer δ) : Prop := ∃ events, c.trace events = some c'

theorem Consumer.Reaches.refl (c : Consumer δ) : c.Reaches c := ⟨[], rfl⟩

theorem Consumer.Reaches.trans {a b c : Consumer δ} (first : a.Reaches b) (second : b.Reaches c) :
    a.Reaches c := by
  obtain ⟨before, first⟩ := first
  obtain ⟨after, second⟩ := second
  exact ⟨before ++ after, by rw [trace_append, first, Option.bind_some, second]⟩

namespace OneThread

variable (r : Reconciler) (s : OneThread)

/-- The consumer of a workshop on one thread. -/
def consumer : Consumer Delivery := s.workshop.consumer

theorem reaches_did (events : List (ConsumerEvent Delivery)) :
    s.consumer.Reaches (s.did events).consumer := by
  cases came : s.consumer.trace events with
  | none =>
    have same : (s.did events).consumer = s.consumer := congrArg (·.getD s.consumer) came
    rw [same]
    exact .refl _
  | some c =>
    have now : (s.did events).consumer = c := congrArg (·.getD s.consumer) came
    rw [now]
    exact ⟨events, came⟩

theorem consumer_wake : s.wake.consumer = s.consumer := by
  unfold wake
  split <;> rfl

theorem reaches_offer : s.consumer.Reaches s.offer.consumer := by
  unfold offer
  split
  case h_1 d rest _ _ => exact reaches_did { s with unsent := rest } [.send d]
  case h_2 =>
    rw [consumer_wake]
    exact reaches_did s [.dropSender]
  case h_3 => exact .refl _

/-- **The turn of the sender** is made of events of the consumer. -/
theorem reaches_sendOn (share : Nat) : s.consumer.Reaches (sendOn share s).consumer := by
  induction share generalizing s with
  | zero => exact reaches_offer s
  | succ share ih =>
    rw [sendOn]
    split
    case h_1 =>
      have accepted : s.consumer.Reaches (s.offer.did [.accept 0]).wake.consumer := by
        rw [consumer_wake]
        exact (reaches_offer s).trans (reaches_did s.offer [.accept 0])
      exact accepted.trans (ih _)
    case h_2 => exact reaches_offer s

/-- **The turn of the consumer** is made of events of its own. -/
theorem reaches_consumeOn (share : Nat) : s.consumer.Reaches (consumeOn share s).consumer := by
  induction share generalizing s with
  | zero => exact .refl _
  | succ share ih =>
    rw [consumeOn]
    split
    case h_1 =>
      split
      case isTrue => exact .refl _
      case isFalse => exact reaches_did s [.stop]
    case h_2 => exact (reaches_did s [.start]).trans (ih { s.did [.start] with row := s.row ++ [.run] })
    case h_3 e _ _ _ => exact (reaches_did s [e]).trans (ih _)
    case h_4 => exact .refl _

/-- **The turn of a run** is made of events of the consumer. -/
theorem reaches_runOn : s.consumer.Reaches (runOn r s).consumer := by
  unfold runOn
  split
  case h_1 d _ _ =>
    rw [consumer_wake]
    exact reaches_did { s with workshop.world := _ } _
  case h_2 => exact .refl _

theorem reaches_turns (n : Nat) : s.consumer.Reaches (turns r n s).consumer := by
  induction n generalizing s with
  | zero => exact .refl _
  | succ n ih =>
    rw [turns]
    split
    case h_1 => exact .refl _
    case h_2 rest _ => exact (reaches_consumeOn { s with row := rest } share).trans (ih _)
    case h_3 rest _ => exact (reaches_runOn r { s with row := rest }).trans (ih _)

theorem reaches_round : s.consumer.Reaches (round r s).consumer := by
  have before := reaches_turns r s turnsAtMost
  simp only [round]
  split
  case isTrue => exact before
  case isFalse => exact before

theorem reaches_rounds (n : Nat) : s.consumer.Reaches (rounds r n s).consumer := by
  induction n generalizing s with
  | zero => exact .refl _
  | succ n ih =>
    have sent := reaches_sendOn s share
    rw [rounds]
    split
    case isTrue => exact sent
    case isFalse => exact sent.trans ((reaches_round r _).trans (ih _))

/-- **One thread does nothing that could not happen.** -/
theorem reaches_finish (s : Workshop) (ds : List Delivery) :
    s.consumer.Reaches (finish r s ds).consumer :=
  reaches_rounds r (begin s ds) _

/-- **A sender that finds the consumer stopped finds every delivery counted** if the permits can be told
in 32 bits. -/
theorem counted_of_stopped {buffer prefetch : Nat} (few : prefetch < 2 ^ 32) (w : World)
    (ds : List Delivery) :
    let c := (finish r ⟨.idle buffer prefetch, w⟩ ds).consumer
    c.stopped = true → c.running = [] ∧ c.stats.received = c.accepted.length ∧
      c.stats.succeeded + c.stats.failed = c.accepted.length := by
  intro c stopped
  obtain ⟨events, trace⟩ := reaches_finish r ⟨.idle buffer prefetch, w⟩ ds
  have ended : c.running = [] := Consumer.running_eq_nil_of_trace few trace stopped
  have quiet : c.Quiet := Consumer.quiet_of_trace trace stopped
  exact ⟨ended, (Consumer.accounts_of_trace trace).counted_eq quiet ended⟩

/-- With a permit more than those the sender finds two of 62 deliveries still in progress. -/
example : (finish LostUpdate.reconciler ⟨.idle 64 (2 ^ 32), LostUpdate.world⟩
    (List.replicate 62 ⟨"", []⟩)).consumer.stats = ⟨62, 0, 60⟩ := by
  decide +kernel

end OneThread

end TransferLedger
