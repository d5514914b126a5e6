/-
# TransferLedger.Service.Crew -- tasks that take turns

Deliveries and registrations run side by side and share one world. A task makes at most one call of
the account store or the bus at a time, and between two calls of one task any others may come. A
crew keeps the order of all calls that succeeded, and a busy workshop ties its deliveries to the
runs of a consumer.
-/

import TransferLedger.Reconcile.Consumer
import TransferLedger.Service.Registration

namespace TransferLedger

/-! ## One task -/

/-- **A task in progress.** -/
inductive CrewTask where
  | delivery (h : Handling)
  | registration (g : Registration)
deriving DecidableEq

/-- A call of the account store or the bus. -/
inductive Call where
  | lookUp
  | save
  | publish
deriving DecidableEq, Repr

/-- The call that took a delivery from one stage to the next, if it made one that succeeded. -/
def Handling.call? : (before after : Handling) → Option Call
  | .arrived _, .found _ _ => some .lookUp
  | .arrived _, .done (.ok (.skipped _)) => some .lookUp
  | .refreshed _ _, .saved _ _ => some .save
  | .saved _ _, .done (.ok _) => some .publish
  | _, _ => none

/-- The message that a delivery published between two stages. -/
def Handling.published? (routing : Routing) : (before after : Handling) → Option RoutedUpdate
  | .saved _ account, .done (.ok (.updated update)) => some ⟨routing.balance account.address, update⟩
  | _, _ => none

/-- The call that took a registration from one stage to the next, if it made one that succeeded. -/
def Registration.call? : (before after : Registration) → Option Call
  | .arrived _, .missing _ => some .lookUp
  | .arrived _, .existing _ => some .lookUp
  | .missing _, .created _ => some .save
  | _, _ => none

/-- **What a task does in one step:** the task and the world after it, the call it made, and the
message it published. -/
structure Turn where
  task : CrewTask
  world : World
  call : Option Call
  published : Option RoutedUpdate

/-- One step of a task. -/
def CrewTask.turn (r : Reconciler) (t : CrewTask) (w : World) : Turn :=
  match t with
  | .delivery h =>
    let (after, w, _) := r.step h w
    ⟨.delivery after, w, h.call? after, h.published? r.routing after⟩
  | .registration g =>
    let (after, w) := g.step r.faults w
    ⟨.registration after, w, g.call? after, none⟩

/-! ## Many tasks -/

/-- **Tasks that share a world.** A task keeps the number under which it joined. -/
structure Crew where
  /-- The tasks as they joined. -/
  joined : List CrewTask
  /-- The tasks as they stand. -/
  tasks : List CrewTask
  world : World
  /-- The calls that succeeded, in order, each with the number of its task. -/
  calls : List (Nat × Call)
  /-- The messages published, in order. -/
  published : List RoutedUpdate
deriving DecidableEq

/-- What may happen in a crew. -/
inductive CrewEvent where
  | deliver (d : Delivery)
  | register (address : String)
  /-- The task of a number takes a step. -/
  | advance (k : Nat)

namespace Crew

/-- A crew without tasks. -/
def idle (w : World) : Crew := ⟨[], [], w, [], []⟩

/-- The crew with a task more. -/
def join (c : Crew) (t : CrewTask) : Crew := { c with joined := c.joined ++ [t], tasks := c.tasks ++ [t] }

/-- The crew after a step of the task of a number, which stands as given. -/
def take (c : Crew) (k : Nat) (turn : Turn) : Crew :=
  { c with
    tasks := c.tasks.set k turn.task
    world := turn.world
    calls := c.calls ++ (turn.call.map fun call => (k, call)).toList
    published := c.published ++ turn.published.toList }

/-- **The crew after an event.** A number that no task has is passed over. -/
def step (r : Reconciler) (c : Crew) : CrewEvent → Crew
  | .deliver d => c.join (.delivery (.arrived d))
  | .register address => c.join (.registration (.arrived address))
  | .advance k =>
    match c.tasks[k]? with
    | some t => c.take k (t.turn r c.world)
    | none => c

/-- The crew after some events. -/
def run (r : Reconciler) (c : Crew) (events : List CrewEvent) : Crew := events.foldl (step r) c

end Crew

/-! ## With a consumer -/

/-- **A reconciler with several deliveries in progress:** its consumer, the numbers of its runs in
the crew, and the crew. -/
structure BusyWorkshop where
  consumer : Consumer Delivery
  /-- The number of each run. -/
  numbers : List Nat
  crew : Crew
deriving DecidableEq

/-- What may happen in a busy workshop. -/
inductive BusyEvent where
  | consumer (e : ConsumerEvent Delivery)
  | register (address : String)
  /-- The task of a number takes a step. -/
  | advance (k : Nat)

namespace BusyWorkshop

/-- A workshop that has just been opened. -/
def opened (buffer prefetch : Nat) (w : World) : BusyWorkshop :=
  ⟨Consumer.idle buffer prefetch, [], Crew.idle w⟩

/-- Whether the `i`th run has handled its delivery, and if so whether it succeeded. -/
def handled? (s : BusyWorkshop) (i : Nat) : Option Bool :=
  match s.numbers[i]?.bind (s.crew.tasks[·]?) with
  | some (.delivery (.done result)) => some result.isOk
  | _ => none

/-- **The workshop after an event,** if it can happen: a run starts a task of the crew, and it is
over when its task is. -/
def step (r : Reconciler) (s : BusyWorkshop) : BusyEvent → Option BusyWorkshop
  | .register address => some { s with crew := s.crew.step r (.register address) }
  | .advance k =>
    if k < s.crew.tasks.length then some { s with crew := s.crew.step r (.advance k) } else none
  | .consumer e =>
    match s.consumer.step e with
    | none => none
    | some c =>
      match e with
      | .start =>
        s.consumer.waiting.map fun d =>
          ⟨c, s.numbers ++ [s.crew.tasks.length], s.crew.step r (.deliver d)⟩
      | .finish i success =>
        if s.handled? i = some success then some { s with consumer := c } else none
      | .release i => some { s with consumer := c, numbers := s.numbers.eraseIdx i }
      | _ => some { s with consumer := c }

/-- The workshop after some events, if they can happen one after the other. -/
def trace (r : Reconciler) (s : BusyWorkshop) : List BusyEvent → Option BusyWorkshop
  | [] => some s
  | e :: rest => (s.step r e).bind fun s => s.trace r rest

end BusyWorkshop

end TransferLedger
