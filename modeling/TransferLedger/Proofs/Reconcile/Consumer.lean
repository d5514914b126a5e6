/-
# TransferLedger.Proofs.Reconcile.Consumer -- no delivery is lost

A delivery goes one way through a consumer: it is being sent, stands in the queue, waits for a permit,
is in progress, and its result is counted. The books below hold after every event, between any two of
these places too: what was accepted is what stands in the queue, what waits, what is in progress and
what has been counted, and no more runs than there are permits.
-/

import Mathlib.Data.List.Perm.Basic
import TransferLedger.Reconcile.Consumer

namespace TransferLedger

/-! ## Lists with one item changed -/

/-- The list around an item, which stays as the item is replaced or left out. -/
theorem exists_around {l : List α} {i : Nat} {a : α} (h : l[i]? = some a) :
    ∃ front back, l = front ++ a :: back ∧ (∀ b, l.set i b = front ++ b :: back) ∧
      l.eraseIdx i = front ++ back := by
  obtain ⟨bound, rfl⟩ := List.getElem?_eq_some_iff.mp h
  refine ⟨l.take i, l.drop (i + 1), ?_, fun b => ?_, List.eraseIdx_eq_take_drop_succ l i⟩
  · rw [List.getElem_cons_drop, List.take_append_drop]
  · rw [List.set_eq_take_append_cons_drop, if_pos bound]

/-- An item may be replaced by one of the same value. -/
theorem filterMap_set {f : α → Option β} {l : List α} {i : Nat} {a b : α} (h : l[i]? = some a)
    (same : f b = f a) : (l.set i b).filterMap f = l.filterMap f := by
  obtain ⟨front, back, whole, set, -⟩ := exists_around h
  rw [set, whole, List.filterMap_append, List.filterMap_append, List.filterMap_cons,
    List.filterMap_cons, same]

/-- An item without a value may be left out. -/
theorem filterMap_eraseIdx {f : α → Option β} {l : List α} {i : Nat} {a : α} (h : l[i]? = some a)
    (none : f a = none) : (l.eraseIdx i).filterMap f = l.filterMap f := by
  obtain ⟨front, back, whole, -, erased⟩ := exists_around h
  rw [erased, whole, List.filterMap_append, List.filterMap_append, List.filterMap_cons_none none]

/-! ## One event -/

variable {δ : Type}

/-- The delivery of a run whose result is not counted yet. -/
def Run.open? : Run δ → Option δ
  | .working d => some d
  | .handled d _ => some d
  | .counted _ _ => none

namespace Consumer

/-- The deliveries that have a permit and whose results are not counted yet. -/
def inProgress (c : Consumer δ) : List δ := c.running.filterMap Run.open?

/-- **What an event does,** and what has to stand for it to happen. -/
inductive Next (c : Consumer δ) : ConsumerEvent δ → Consumer δ → Prop
  | send (d : δ) (left : c.senders ≠ 0) :
    Next c (.send d) { c with
      sending := c.sending ++ [d]
      stats := { c.stats with received := c.stats.received + 1 } }
  | accept {i : Nat} {d : δ} (sent : c.sending[i]? = some d) (room : c.queue.length < c.buffer) :
    Next c (.accept i) { c with
      sending := c.sending.eraseIdx i
      queue := c.queue ++ [d]
      accepted := c.accepted ++ [d] }
  | newSender (left : c.senders ≠ 0) : Next c .newSender { c with senders := c.senders + 1 }
  | dropSender (idle : ¬(c.senders = 0 ∨ (c.senders = 1 ∧ c.sending ≠ []))) :
    Next c .dropSender { c with senders := c.senders - 1 }
  | take {d : δ} {rest : List δ} (free : c.waiting = none) (first : c.queue = d :: rest) :
    Next c .take { c with waiting := some d, queue := rest }
  | start {d : δ} (waits : c.waiting = some d) (permit : c.running.length < c.prefetch) :
    Next c .start { c with
      waiting := none
      running := c.running ++ [.working d]
      started := c.started ++ [d] }
  | finish {i : Nat} {d : δ} (success : Bool) (runs : c.running[i]? = some (.working d)) :
    Next c (.finish i success) { c with running := c.running.set i (.handled d success) }
  | count {i : Nat} {d : δ} {success : Bool} (runs : c.running[i]? = some (.handled d success)) :
    Next c (.count i) { c with
      running := c.running.set i (.counted d success)
      stats := c.stats.count success }
  | release {i : Nat} {d : δ} {success : Bool} (runs : c.running[i]? = some (.counted d success)) :
    Next c (.release i) { c with running := c.running.eraseIdx i }
  | stop (closed : c.senders = 0 ∧ c.sending = [] ∧ c.queue = [] ∧ c.waiting = none ∧ !c.stopped ∧
      c.finalPermits + c.running.length ≤ c.prefetch) :
    Next c .stop { c with stopped := true }

variable {c c' : Consumer δ} {e : ConsumerEvent δ}

theorem next_of_step (h : c.step e = some c') : c.Next e c' := by
  cases e <;> simp only [step] at h
  case send d =>
    split at h <;> cases h
    next left => exact .send d left
  case accept i =>
    split at h <;> try contradiction
    next d sent =>
      split at h <;> cases h
      next room => exact .accept sent room
  case newSender =>
    split at h <;> cases h
    next left => exact .newSender left
  case dropSender =>
    split at h <;> cases h
    next idle => exact .dropSender idle
  case take =>
    split at h <;> cases h
    next free first => exact .take free first
  case start =>
    split at h <;> try contradiction
    next d waits =>
      split at h <;> cases h
      next permit => exact .start waits permit
  case finish i success =>
    split at h <;> cases h
    next d runs => exact .finish success runs
  case count i =>
    split at h <;> cases h
    next d success runs => exact .count runs
  case release i =>
    split at h <;> cases h
    next d success runs => exact .release runs
  case stop =>
    split at h <;> cases h
    next closed => exact .stop closed

/-- A queue keeps its length and a consumer its permits. -/
theorem Next.limits (h : c.Next e c') : c'.buffer = c.buffer ∧ c'.prefetch = c.prefetch := by
  cases h <;> exact ⟨rfl, rfl⟩

/-! ## The books -/

/-- The result that an event counts, if it counts one. -/
def counts? (c : Consumer δ) : ConsumerEvent δ → Option (δ × Bool)
  | .count i =>
    match c.running[i]? with
    | some (.handled d success) => some (d, success)
    | _ => none
  | _ => none

/-- **The results that some events count,** in order. -/
def settled (c : Consumer δ) : List (ConsumerEvent δ) → List (δ × Bool)
  | [] => []
  | e :: rest =>
    (c.counts? e).toList ++
      match c.step e with
      | some c => settled c rest
      | none => []

/-- **The books of a consumer** that has counted some results. -/
structure Accounts (results : List (δ × Bool)) (c : Consumer δ) : Prop where
  room : c.queue.length ≤ c.buffer
  permits : c.running.length ≤ c.prefetch
  /-- What has started, what waits and what stands in the queue are in the order of acceptance. -/
  order : c.started ++ c.waiting.toList ++ c.queue = c.accepted
  /-- What has started is in progress or counted, and not both. -/
  runs : c.started.Perm (c.inProgress ++ results.map (·.1))
  /-- A delivery is received from the moment it is being sent. -/
  received : c.stats.received = c.accepted.length + c.sending.length
  succeeded : c.stats.succeeded = results.countP (·.2)
  failed : c.stats.failed = results.countP (!·.2)

theorem accounts_idle (buffer prefetch : Nat) : Accounts [] (idle buffer prefetch : Consumer δ) where
  room := Nat.zero_le _
  permits := Nat.zero_le _
  order := rfl
  runs := List.Perm.nil
  received := rfl
  succeeded := rfl
  failed := rfl

/-! ## Keeping the books -/

variable {results : List (δ × Bool)}

theorem counts?_count {i : Nat} {d : δ} {success : Bool}
    (runs : c.running[i]? = some (.handled d success)) :
    c.counts? (.count i) = some (d, success) := by
  simp only [counts?, runs]

/-- A delivery that is accepted goes to the end of the queue. -/
theorem Accounts.accept (h : Accounts results c) {i : Nat} {d : δ} (sent : c.sending[i]? = some d)
    (room : c.queue.length < c.buffer) :
    Accounts results { c with
      sending := c.sending.eraseIdx i
      queue := c.queue ++ [d]
      accepted := c.accepted ++ [d] } := by
  obtain ⟨bound, -⟩ := List.getElem?_eq_some_iff.mp sent
  refine { h with room := ?_, order := ?_, received := ?_ }
  · show (c.queue ++ [d]).length ≤ c.buffer
    rw [List.length_append, List.length_singleton]
    exact room
  · show c.started ++ c.waiting.toList ++ (c.queue ++ [d]) = c.accepted ++ [d]
    rw [← List.append_assoc, h.order]
  · show c.stats.received = (c.accepted ++ [d]).length + (c.sending.eraseIdx i).length
    rw [h.received, List.length_append, List.length_singleton, List.length_eraseIdx_of_lt bound]
    omega

/-- The first delivery of the queue waits for a permit. -/
theorem Accounts.take (h : Accounts results c) {d : δ} {rest : List δ} (free : c.waiting = none)
    (first : c.queue = d :: rest) :
    Accounts results { c with queue := rest, waiting := some d } := by
  have room := h.room
  have order := h.order
  rw [first, List.length_cons] at room
  rw [free, first, Option.toList_none, List.append_nil] at order
  refine { h with room := Nat.le_of_succ_le room, order := ?_ }
  show c.started ++ [d] ++ rest = c.accepted
  rw [← order, List.append_assoc, List.singleton_append]

/-- The delivery that waits is the next one to be in progress. -/
theorem Accounts.start (h : Accounts results c) {d : δ} (waits : c.waiting = some d)
    (permit : c.running.length < c.prefetch) :
    Accounts results { c with
      waiting := none
      running := c.running ++ [.working d]
      started := c.started ++ [d] } := by
  have order := h.order
  rw [waits, Option.toList_some] at order
  refine { h with permits := ?_, order := ?_, runs := ?_ }
  · show (c.running ++ [Run.working d]).length ≤ c.prefetch
    rw [List.length_append, List.length_singleton]
    exact permit
  · show c.started ++ [d] ++ [] ++ c.queue = c.accepted
    rw [List.append_nil, order]
  · show (c.started ++ [d]).Perm
      ((c.running ++ [Run.working d]).filterMap Run.open? ++ results.map (·.1))
    rw [List.filterMap_append]
    calc c.started ++ [d]
      _ |>.Perm (c.inProgress ++ results.map (·.1) ++ [d]) := h.runs.append_right [d]
      _ |>.Perm (c.inProgress ++ [d] ++ results.map (·.1)) := by
        rw [List.append_assoc, List.append_assoc]
        exact List.perm_append_comm.append_left c.inProgress

/-- A delivery is in progress until its result is counted, and not only until it is handled. -/
theorem Accounts.finish (h : Accounts results c) {i : Nat} {d : δ} (success : Bool)
    (runs : c.running[i]? = some (.working d)) :
    Accounts results { c with running := c.running.set i (.handled d success) } := by
  refine { h with permits := ?_, runs := ?_ }
  · show (c.running.set i (.handled d success)).length ≤ c.prefetch
    rw [List.length_set]
    exact h.permits
  · show c.started.Perm ((c.running.set i (.handled d success)).filterMap Run.open? ++ _)
    rw [filterMap_set (b := .handled d success) runs rfl]
    exact h.runs

/-- A run that gives its permit back is counted already. -/
theorem Accounts.release (h : Accounts results c) {i : Nat} {d : δ} {success : Bool}
    (runs : c.running[i]? = some (.counted d success)) :
    Accounts results { c with running := c.running.eraseIdx i } := by
  refine { h with permits := ?_, runs := ?_ }
  · exact Nat.le_trans (List.length_eraseIdx_le c.running i) h.permits
  · show c.started.Perm ((c.running.eraseIdx i).filterMap Run.open? ++ _)
    rw [filterMap_eraseIdx runs rfl]
    exact h.runs

/-- An event that counts nothing leaves the books right as they are. -/
theorem Accounts.next_quiet (h : Accounts results c) (next : c.Next e c')
    (quiet : c.counts? e = none) : Accounts results c' := by
  cases next with
  | send d left =>
    refine { h with received := ?_ }
    show c.stats.received + 1 = c.accepted.length + (c.sending ++ [d]).length
    rw [h.received, List.length_append, List.length_singleton, Nat.add_assoc]
  | accept sent room => exact h.accept sent room
  | newSender | dropSender | stop => exact { h with }
  | take free first => exact h.take free first
  | start waits permit => exact h.start waits permit
  | finish success runs => exact h.finish success runs
  | count runs => exact nomatch (counts?_count runs).symm.trans quiet
  | release runs => exact h.release runs

/-- A run that counts its result takes its delivery from what is in progress to what is counted. -/
theorem Accounts.next_count (h : Accounts results c) {i : Nat} {d : δ} {success : Bool}
    (runs : c.running[i]? = some (.handled d success)) :
    Accounts (results ++ [(d, success)]) { c with
      running := c.running.set i (.counted d success)
      stats := c.stats.count success } where
  room := h.room
  permits := by
    rw [List.length_set]
    exact h.permits
  order := h.order
  runs := by
    obtain ⟨front, back, whole, set, -⟩ := exists_around runs
    have before : c.inProgress = front.filterMap Run.open? ++ d :: back.filterMap Run.open? := by
      rw [inProgress, whole, List.filterMap_append]
      rfl
    have after : (c.running.set i (.counted d success)).filterMap Run.open? =
        front.filterMap Run.open? ++ back.filterMap Run.open? := by
      rw [set, List.filterMap_append]
      rfl
    show c.started.Perm ((c.running.set i (.counted d success)).filterMap Run.open? ++
      (results ++ [(d, success)]).map (·.1))
    rw [after, List.map_append, ← List.append_assoc]
    calc c.started
      _ |>.Perm (c.inProgress ++ results.map (·.1)) := h.runs
      _ |>.Perm (d :: (front.filterMap Run.open? ++ back.filterMap Run.open?) ++
          results.map (·.1)) := by
        rw [before]
        exact List.perm_middle.append_right _
      _ |>.Perm _ := (List.perm_append_singleton d _).symm
  received := by
    cases success <;> exact h.received
  succeeded := by
    rw [List.countP_append, ← h.succeeded]
    cases success <;> rfl
  failed := by
    rw [List.countP_append, ← h.failed]
    cases success <;> rfl

/-- **Every event keeps the books,** with the result that it counts, if it counts one. -/
theorem Accounts.next (h : Accounts results c) (next : c.Next e c') :
    Accounts (results ++ (c.counts? e).toList) c' := by
  -- All events but a count leave the results as they are.
  cases counted : c.counts? e with
  | none =>
    rw [Option.toList_none, List.append_nil]
    exact h.next_quiet next counted
  | some result =>
    cases next with
    | count runs =>
      rw [counts?_count runs, Option.some_inj] at counted
      rw [← counted]
      exact h.next_count runs
    | _ => exact nomatch counted

/-! ## Traces -/

theorem trace_append (c : Consumer δ) (before after : List (ConsumerEvent δ)) :
    c.trace (before ++ after) = (c.trace before).bind fun c => c.trace after := by
  induction before generalizing c with
  | nil => rfl
  | cons e before ih =>
    rw [List.cons_append, trace, trace, Option.bind_assoc]
    exact congrArg (c.step e).bind (funext ih)

/-- What holds at first and is preserved by every event holds after every trace. -/
theorem trace_induction {P : Consumer δ → Prop} (first : P c)
    (next : ∀ {c c' : Consumer δ} {e : ConsumerEvent δ}, c.Next e c' → P c → P c')
    {events : List (ConsumerEvent δ)} (trace : c.trace events = some c') : P c' := by
  induction events generalizing c with
  | nil =>
    obtain rfl := Option.some.inj trace
    exact first
  | cons e events ih =>
    obtain ⟨middle, step, rest⟩ := Option.bind_eq_some_iff.mp trace
    exact ih (next (next_of_step step) first) rest

theorem limits_of_trace {events : List (ConsumerEvent δ)} (trace : c.trace events = some c') :
    c'.buffer = c.buffer ∧ c'.prefetch = c.prefetch := by
  refine trace_induction (P := fun d => d.buffer = c.buffer ∧ d.prefetch = c.prefetch) ⟨rfl, rfl⟩
    (fun next limits => ?_) trace
  exact ⟨next.limits.1.trans limits.1, next.limits.2.trans limits.2⟩

theorem Accounts.trace (h : Accounts results c) {events : List (ConsumerEvent δ)}
    (trace : c.trace events = some c') : Accounts (results ++ c.settled events) c' := by
  -- By induction on the events, for any results: the first event may add one to those before it.
  induction events generalizing c results with
  | nil =>
    obtain rfl := Option.some.inj trace
    rwa [settled, List.append_nil]
  | cons e events ih =>
    obtain ⟨middle, first, rest⟩ := Option.bind_eq_some_iff.mp trace
    have whole : c.settled (e :: events) = (c.counts? e).toList ++ middle.settled events := by
      simp only [settled, first]
    rw [whole, ← List.append_assoc]
    exact ih (h.next (next_of_step first)) rest

/-- **The books of a consumer are right after every trace,** however its events follow one another and
whatever the results of its runs are. -/
theorem accounts_of_trace {buffer prefetch : Nat} {events : List (ConsumerEvent δ)}
    (trace : (idle buffer prefetch).trace events = some c) :
    Accounts ((idle buffer prefetch).settled events) c :=
  (accounts_idle buffer prefetch).trace trace

/-- **Nothing is lost:** what was accepted stands in the queue, waits, is in progress or is counted. -/
theorem Accounts.accepted (h : Accounts results c) :
    c.accepted.Perm (c.queue ++ c.waiting.toList ++ c.inProgress ++ results.map (·.1)) := by
  rw [← h.order, List.append_assoc _ _ (results.map (·.1))]
  calc c.started ++ c.waiting.toList ++ c.queue
    _ |>.Perm (c.queue ++ (c.started ++ c.waiting.toList)) := List.perm_append_comm
    _ |>.Perm (c.queue ++ (c.waiting.toList ++ c.started)) := List.perm_append_comm.append_left _
    _ |>.Perm (c.queue ++ c.waiting.toList ++ (c.inProgress ++ results.map (·.1))) := by
      rw [← List.append_assoc]
      exact h.runs.append_left _

/-- No more is counted than was received. -/
theorem Accounts.counted_le (h : Accounts results c) :
    c.stats.succeeded + c.stats.failed ≤ c.stats.received := by
  have every : results.length = results.countP (·.2) + results.countP (!·.2) := by
    simpa using List.length_eq_countP_add_countP (·.2) (l := results)
  have started := h.runs.length_eq
  have accepted := congrArg List.length h.order
  rw [List.length_append, List.length_map] at started
  rw [List.length_append, List.length_append] at accepted
  rw [h.succeeded, h.failed, h.received]
  omega

end Consumer

end TransferLedger
