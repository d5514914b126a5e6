/-
# TransferLedger.Proofs.Chain.Rotation -- where health checks lead

Every failed check turns a rotation by one node and every other one leaves it where it is, so after
any run of checks the rotation stands as many nodes further as checks have failed. Where it is always
the same nodes that answer, the checks fail exactly until the first of these is reached: that node is
less than a full turn away, and the rotation stays there.
-/

import Mathlib.Data.Nat.Find
import Mathlib.Tactic.ByContra
import TransferLedger.Chain.Rotation

namespace TransferLedger.Rotation

variable {α : Type} {r : Rotation α}

/-! ## Turning -/

/-- **The rotation some nodes further.** -/
def turned (r : Rotation α) (steps : Nat) : Rotation α where
  nodes := r.nodes
  current := (r.current + steps) % r.nodes.length
  current_lt := Nat.mod_lt _ (Nat.zero_lt_of_lt r.current_lt)

theorem turned_zero : r.turned 0 = r := by
  obtain ⟨nodes, current, inside⟩ := r
  simp [turned, Nat.mod_eq_of_lt inside]

theorem advance_turned (steps : Nat) : (r.turned steps).advance = r.turned (steps + 1) := by
  simp [turned, advance, Nat.add_assoc]

theorem node_turned_mem (steps : Nat) : (r.turned steps).node ∈ r.nodes :=
  List.get_mem r.nodes ⟨_, (r.turned steps).current_lt⟩

/-- Every node is less than a full turn away. -/
theorem exists_turned {node : α} (h : node ∈ r.nodes) :
    ∃ steps < r.nodes.length, (r.turned steps).node = node := by
  obtain ⟨i, inside, rfl⟩ := List.mem_iff_getElem.mp h
  have start := r.current_lt
  -- From the current node on to the end of the list, and from its start to the node.
  refine ⟨(i + r.nodes.length - r.current) % r.nodes.length, Nat.mod_lt _ (by omega), ?_⟩
  have place : (r.current + (i + r.nodes.length - r.current) % r.nodes.length) % r.nodes.length = i := by
    rw [Nat.add_mod_mod, show r.current + (i + r.nodes.length - r.current) = i + r.nodes.length by omega,
      Nat.add_mod_right, Nat.mod_eq_of_lt inside]
  simp [node, turned, place]

/-! ## Checks -/

theorem check_of_ne {answer : Except RpcFailure Bool} (h : answer ≠ .ok true) :
    r.check answer = (false, r.advance) := by
  unfold check
  split
  case h_1 => exact absurd rfl h
  case h_2 => rfl
  case h_3 => rfl

/-- A check is passed if the node answers that it is listening. -/
theorem check_eq_true_iff {answer : Except RpcFailure Bool} :
    (r.check answer).1 = true ↔ answer = .ok true := by
  constructor
  · intro passed
    by_contra other
    rw [check_of_ne other] at passed
    exact nomatch passed
  · rintro rfl
    rfl

/-- A step leads to another node if there is one. -/
theorem current_advance_ne (several : 2 ≤ r.nodes.length) : r.advance.current ≠ r.current := by
  have inside := r.current_lt
  show (r.current + 1) % r.nodes.length ≠ r.current
  -- Only the last node is followed by one with a smaller number.
  by_cases last : r.current + 1 = r.nodes.length
  · rw [last, Nat.mod_self]
    omega
  · rw [Nat.mod_eq_of_lt (by omega)]
    omega

/-- Where there are several nodes, a check is passed exactly if the rotation stays. -/
theorem check_eq_true_iff_stays (several : 2 ≤ r.nodes.length) {answer : Except RpcFailure Bool} :
    (r.check answer).1 = true ↔ (r.check answer).2.current = r.current := by
  rw [check_eq_true_iff]
  constructor
  · rintro rfl
    rfl
  · intro stays
    by_contra other
    rw [check_of_ne other] at stays
    exact current_advance_ne several stays

/-! ## Runs of checks -/

/-- **The rotation after so many checks,** where the answer of a node may change from one check to the
next. -/
def after (r : Rotation α) (answer : Nat → α → Except RpcFailure Bool) : Nat → Rotation α
  | 0 => r
  | t + 1 => ((r.after answer t).check (answer t (r.after answer t).node)).2

/-- **How many of so many checks fail.** -/
def failures (r : Rotation α) (answer : Nat → α → Except RpcFailure Bool) (checks : Nat) : Nat :=
  (List.range checks).countP fun t => !((r.after answer t).check (answer t (r.after answer t).node)).1

variable {answer : Nat → α → Except RpcFailure Bool}

/-- **Failed checks are what turns a rotation,** by induction on the checks. -/
theorem after_eq_turned (t : Nat) : r.after answer t = r.turned (r.failures answer t) := by
  induction t with
  | zero => exact turned_zero.symm
  | succ t ih =>
    have counted : r.failures answer (t + 1) = r.failures answer t +
        if ((r.after answer t).check (answer t (r.after answer t).node)).1 then 0 else 1 := by
      unfold failures
      rw [List.range_succ, List.countP_append, List.countP_singleton]
      cases ((r.after answer t).check (answer t (r.after answer t).node)).1 <;> rfl
    rw [counted, after]
    -- A passed check changes neither the rotation nor the count.
    by_cases up : answer t (r.after answer t).node = .ok true
    · rw [up]
      exact ih
    · rw [check_of_ne up]
      show (r.after answer t).advance = _
      rw [ih, advance_turned]
      rfl

/-- **The checks lead to the first node that answers and stay there,** by induction on the checks. -/
theorem after_eq_turned_min {up : α → Prop} {first : Nat}
    (fixed : ∀ t, ∀ node ∈ r.nodes, answer t node = .ok true ↔ up node)
    (reached : up (r.turned first).node) (before : ∀ e < first, ¬up (r.turned e).node) (t : Nat) :
    r.after answer t = r.turned (min t first) := by
  induction t with
  | zero => rw [Nat.zero_min, turned_zero, after]
  | succ t ih =>
    have asked := fixed t _ (node_turned_mem (r := r) (min t first))
    rw [after, ih]
    -- Before the first node that answers a check turns the rotation, and from then on none does.
    by_cases early : t < first
    · have down : answer t (r.turned (min t first)).node ≠ .ok true := by
        rw [Ne, asked, Nat.min_eq_left (Nat.le_of_lt early)]
        exact before t early
      rw [check_of_ne down, Nat.min_eq_left (Nat.le_of_lt early), Nat.min_eq_left early]
      exact advance_turned t
    · have late : first ≤ t := Nat.le_of_not_lt early
      have listening : answer t (r.turned (min t first)).node = .ok true := by
        rw [asked, Nat.min_eq_right late]
        exact reached
      rw [listening, Nat.min_eq_right late, Nat.min_eq_right (Nat.le_succ_of_le late)]
      rfl

/-- **The checks settle** less than a full turn away if it is always the same nodes that answer and
there is one. -/
theorem exists_after_eq {up : α → Prop}
    (fixed : ∀ t, ∀ node ∈ r.nodes, answer t node = .ok true ↔ up node)
    (listening : ∃ node ∈ r.nodes, up node) :
    ∃ first ≤ r.nodes.length - 1, up (r.turned first).node ∧
      (∀ e < first, ¬up (r.turned e).node) ∧ ∀ t, first ≤ t → r.after answer t = r.turned first := by
  classical
  obtain ⟨node, there, answers⟩ := listening
  obtain ⟨steps, near, rfl⟩ := exists_turned there
  have found : ∃ steps, up (r.turned steps).node := ⟨steps, answers⟩
  have least : Nat.find found ≤ steps := Nat.find_min' found answers
  have before : ∀ e < Nat.find found, ¬up (r.turned e).node := fun e => Nat.find_min found
  refine ⟨Nat.find found, by omega, Nat.find_spec found, before, ?_⟩
  intro t late
  rw [after_eq_turned_min fixed (Nat.find_spec found) before, Nat.min_eq_right late]

/-- The checks of a watch are such a run, in which every node keeps its answer. The watch counts them
from the other end. -/
theorem checks_eq_after (answer : α → Except RpcFailure Bool) (t : Nat) :
    r.checks answer t = r.after (fun _ => answer) t := by
  have last : ∀ (t : Nat) (r : Rotation α),
      r.checks answer (t + 1) = ((r.checks answer t).check (answer (r.checks answer t).node)).2 := by
    intro t
    induction t with
    | zero => exact fun _ => rfl
    | succ t ih => exact fun r => ih (r.check (answer r.node)).2
  induction t with
  | zero => rfl
  | succ t ih => rw [last, ih, after]

/-- **A watch settles on the first node that answers,** if there is one. -/
theorem exists_checks_eq {answer : α → Except RpcFailure Bool}
    (listening : ∃ node ∈ r.nodes, answer node = .ok true) :
    ∃ first ≤ r.nodes.length - 1, answer (r.turned first).node = .ok true ∧
      ∀ t, first ≤ t → r.checks answer t = r.turned first := by
  have fixed : ∀ _ : Nat, ∀ node ∈ r.nodes, answer node = .ok true ↔ answer node = .ok true :=
    fun _ _ _ => Iff.rfl
  obtain ⟨first, near, listens, -, settled⟩ := exists_after_eq fixed listening
  exact ⟨first, near, listens, fun t late => (checks_eq_after answer t).trans (settled t late)⟩

/-- **Where health checks lead.** After any run of checks, whatever the nodes answer, the rotation
stands as many nodes further, in a circle, as checks have failed. A check is passed exactly if the node
answers that it is listening and, where there are several nodes, exactly if the rotation stays. And if
it is always the same nodes that answer so, and there is one, then the rotation is at the first of them
after less than a full turn of checks and stays there. -/
theorem checks_rotate (r : Rotation α) (answer : Nat → α → Except RpcFailure Bool) :
    (∀ t, (r.after answer t).nodes = r.nodes ∧ (r.after answer t).current < r.nodes.length ∧
      (r.after answer t).current = (r.current + r.failures answer t) % r.nodes.length) ∧
      (∀ (s : Rotation α) (a : Except RpcFailure Bool), ((s.check a).1 = true ↔ a = .ok true) ∧
        (2 ≤ s.nodes.length → ((s.check a).1 = true ↔ (s.check a).2.current = s.current))) ∧
      ∀ up : α → Prop, (∀ t, ∀ node ∈ r.nodes, answer t node = .ok true ↔ up node) →
        (∃ node ∈ r.nodes, up node) →
          ∃ first ≤ r.nodes.length - 1, up (r.turned first).node ∧
            (∀ e < first, ¬up (r.turned e).node) ∧
            ∀ t, first ≤ t → r.after answer t = r.turned first := by
  refine ⟨fun t => ?_, fun s a => ⟨check_eq_true_iff, fun several => ?_⟩, fun up fixed listening => ?_⟩
  · rw [after_eq_turned]
    exact ⟨rfl, (r.turned _).current_lt, rfl⟩
  · exact check_eq_true_iff_stays several
  · exact exists_after_eq fixed listening

end TransferLedger.Rotation

namespace TransferLedger.SingleNode

/-- A rotation with one node only. -/
def rotation : Rotation String := ⟨["a"], 0, by decide⟩

/-- **A single node stays although its check fails,** since the next node is the same one. -/
theorem failed_check_stays :
    ¬((rotation.check (.ok false)).1 = true ↔
      (rotation.check (.ok false)).2.current = rotation.current) := by
  decide

end TransferLedger.SingleNode

namespace TransferLedger.ThreeNodes

/-- Three nodes, of which the last one is current. -/
def rotation : Rotation String := ⟨["a", "b", "c"], 2, by decide⟩

/-- The first node fails in one way or another, the second one listens, and the third one does not. -/
def answer (t : Nat) (node : String) : Except RpcFailure Bool :=
  if node = "b" then .ok true
  else if node = "a" ∧ t % 2 = 1 then .error (.http 503)
  else .ok false

theorem answer_iff {t : Nat} {node : String} : answer t node = .ok true ↔ node = "b" := by
  unfold answer
  split
  case isTrue listens => exact iff_of_true rfl listens
  case isFalse other =>
    refine iff_of_false ?_ other
    split <;> simp

/-- The checks come round to the second node after two steps. -/
theorem checks_come_round :
    (∀ t, ∀ node ∈ rotation.nodes, answer t node = .ok true ↔ node = "b") ∧
      (∃ node ∈ rotation.nodes, node = "b") ∧ 2 ≤ rotation.nodes.length ∧
      (∀ a, (rotation.check a).1 = true ↔ (rotation.check a).2.current = rotation.current) ∧
      ∀ t, 2 ≤ t → (rotation.after answer t).current = 1 := by
  have fixed : ∀ t, ∀ node ∈ rotation.nodes, answer t node = .ok true ↔ node = "b" :=
    fun _ _ _ => answer_iff
  have listening : ∃ node ∈ rotation.nodes, node = "b" := by decide
  have several : 2 ≤ rotation.nodes.length := by decide
  obtain ⟨-, checked, settle⟩ := rotation.checks_rotate answer
  obtain ⟨first, near, listens, -, settled⟩ := settle (· = "b") fixed listening
  refine ⟨fixed, listening, several, fun a => (checked rotation a).2 several, fun t late => ?_⟩
  rw [settled t (Nat.le_trans near late)]
  -- Of the nodes less than a full turn away it is the last one only that listens.
  have last : ∀ steps < 3, (rotation.turned steps).node = "b" →
      (rotation.turned steps).current = 1 := by decide
  exact last first (Nat.lt_succ_of_le near) listens

end TransferLedger.ThreeNodes
