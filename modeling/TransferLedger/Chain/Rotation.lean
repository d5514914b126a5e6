/-
# TransferLedger.Chain.Rotation -- choosing among nodes

Several nodes serve the same chain and one of them is current. A health check asks the current node
whether it is listening and moves on to the next one, in a circle, unless the answer is yes. A watch
repeats the check at fixed intervals of a clock.
-/

import TransferLedger.Failure

namespace TransferLedger

/-- **Some nodes, one of them current.** -/
structure Rotation (α : Type) where
  nodes : List α
  current : Nat
  current_lt : current < nodes.length

namespace Rotation

/-- The rotation that starts at the first of some nodes. There has to be one. -/
def ofNodes? : List α → Except Failure (Rotation α)
  | [] => .error (.of (.other "At least one provider endpoint is required"))
  | node :: rest => .ok ⟨node :: rest, 0, Nat.zero_lt_succ _⟩

/-- The current node. -/
def node (r : Rotation α) : α := r.nodes.get ⟨r.current, r.current_lt⟩

/-- The rotation one node further. -/
def advance (r : Rotation α) : Rotation α where
  nodes := r.nodes
  current := (r.current + 1) % r.nodes.length
  current_lt := Nat.mod_lt _ (Nat.zero_lt_of_lt r.current_lt)

/-- **A health check,** given what the current node answers: whether it is healthy, and the rotation
after that. -/
def check (r : Rotation α) (answer : Except RpcFailure Bool) : Bool × Rotation α :=
  match answer with
  | .ok true => (true, r)
  | .ok false | .error _ => (false, r.advance)

/-- The same place in a list of as many nodes. -/
def withNodes (r : Rotation α) (f : Nat → α → β) : Rotation β where
  nodes := r.nodes.mapIdx f
  current := r.current
  current_lt := by simpa using r.current_lt

end Rotation

/-- **A repeated health check:** when the next one is due, and the time between two. -/
structure HealthWatch where
  due : Nat
  interval : Nat
deriving DecidableEq, Repr

namespace HealthWatch

/-- A watch from a moment on. It checks for the first time after one interval; without an interval
there is none. -/
def start? (now interval : Nat) : Option HealthWatch :=
  if interval = 0 then none else some ⟨now + interval, interval⟩

/-- How many checks fall due up to a moment. -/
def dueCount (w : HealthWatch) (now : Nat) : Nat :=
  if now < w.due then 0 else (now - w.due) / w.interval + 1

/-- The watch after some checks. -/
def after (w : HealthWatch) (checks : Nat) : HealthWatch :=
  { w with due := w.due + checks * w.interval }

end HealthWatch

/-- The rotation after some checks of nodes that each keep their answer. -/
def Rotation.checks (answer : α → Except RpcFailure Bool) : Nat → Rotation α → Rotation α
  | 0, r => r
  | n + 1, r => checks answer n (r.check (answer r.node)).2

end TransferLedger
