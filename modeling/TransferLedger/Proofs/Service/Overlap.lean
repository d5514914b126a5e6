/-
# TransferLedger.Proofs.Service.Overlap -- two deliveries of one account at the same time

Nothing keeps two deliveries of one account apart: each looks the account up, reads its balances and
saves it again, and the calls of the other may come in between. What is stored in the end depends on
one thing only: whether the delivery that saves last had looked the account up after the other one
saved it. If so the two work as if they were handled one after the other. If not, the account is left
as if the last one had been handled alone, and what the other one refreshed is lost.
-/

import TransferLedger.Proofs.Reconcile.Handling
import TransferLedger.Proofs.Service.Crew

namespace TransferLedger

open TransferLedger.Text

/-! ## Two calls in order -/

theorem pair_sublist_concat {α : Type} {l : List α} {p q e : α} :
    [p, q].Sublist (l ++ [e]) ↔ [p, q].Sublist l ∨ (p ∈ l ∧ e = q) := by
  constructor
  · intro h
    obtain ⟨front, back, split, hfront, hback⟩ := List.sublist_append_iff.mp h
    rcases back with _ | ⟨last, _ | ⟨_, back⟩⟩
    · rw [List.append_nil] at split
      exact .inl (split ▸ hfront)
    · obtain rfl : last = e := List.mem_singleton.mp (List.singleton_sublist.mp hback)
      obtain ⟨rfl, rfl⟩ : front = [p] ∧ q = last := by
        rcases front with _ | ⟨_, _ | ⟨_, front⟩⟩ <;> simp_all
      exact .inr ⟨List.singleton_sublist.mp hfront, rfl⟩
    · exact absurd hback.length_le (by simp)
  · rintro (h | ⟨h, rfl⟩)
    · exact h.trans (List.sublist_append_left l [e])
    · exact (List.singleton_sublist.mpr h).append (List.Sublist.refl [e])

theorem mem_of_pair_sublist {α : Type} {l : List α} {p q : α} (h : [p, q].Sublist l) : p ∈ l :=
  h.subset List.mem_cons_self

/-- A delivery of a crew, with what it amounts to. -/
structure Party where
  number : Nat
  delivery : Delivery
  notification : Notification
  fresh : Balances

namespace Party

/-- An account refreshed by the delivery. -/
def refreshed (r : Reconciler) (p : Party) (account : Account) : Account :=
  account.merge p.fresh r.now

/-- The delivery after so many steps, if it has found the account given. -/
def stage (r : Reconciler) (p : Party) (account : Account) : Nat → Handling
  | 0 => .arrived p.delivery
  | 1 => .found p.notification account
  | 2 => .refreshed p.notification (p.refreshed r account)
  | 3 => .saved p.notification (p.refreshed r account)
  | _ => .done (.ok (.updated (r.told p.notification p.fresh account)))

end Party

/-! ## Which delivery saves first -/

section Order

variable (r : Reconciler) (kept : Account → Account) (origin : Account) (x y : Party)
  (i j : Nat) (a b cell : Account) (calls : List (Nat × Call))

/-- Neither delivery has saved: both see the account as it was. -/
structure Unled : Prop where
  early_x : i ≤ 2
  early_y : j ≤ 2
  seen_x : 1 ≤ i → a = origin
  seen_y : 1 ≤ j → b = origin
  stored : cell = origin
  unsaved_x : (x.number, Call.save) ∉ calls
  unsaved_y : (y.number, Call.save) ∉ calls

/-- **The first delivery has saved first,** from the account as it was. The second one sees the
account as it was or as the first one left it, according to when it looks it up. -/
structure Led : Prop where
  past : 3 ≤ i
  seen : a = origin
  saved : (x.number, Call.save) ∈ calls
  view : 1 ≤ j →
    ([(x.number, Call.save), (y.number, Call.lookUp)].Sublist calls ∧
      b = kept (x.refreshed r origin)) ∨
    (¬[(x.number, Call.save), (y.number, Call.lookUp)].Sublist calls ∧ b = origin)
  before : j ≤ 2 → cell = kept (x.refreshed r origin)
  after : 3 ≤ j → cell = kept (y.refreshed r b) ∧
    [(x.number, Call.save), (y.number, Call.save)].Sublist calls

/-- Neither delivery has saved, or one of them has saved first. -/
def Ordered : Prop :=
  Unled origin x y i j a b cell calls ∨ Led r kept origin x y i j a b cell calls ∨
    Led r kept origin y x j i b a cell calls

end Order

section OrderSteps

variable {r : Reconciler} {kept : Account → Account} {origin : Account} {x y : Party}
  {i j : Nat} {a b cell : Account} {calls : List (Nat × Call)}

theorem Ordered.symm (h : Ordered r kept origin x y i j a b cell calls) :
    Ordered r kept origin y x j i b a cell calls := by
  rcases h with h | h | h
  · exact .inl ⟨h.early_y, h.early_x, h.seen_y, h.seen_x, h.stored, h.unsaved_y, h.unsaved_x⟩
  · exact .inr (.inr h)
  · exact .inr (.inl h)

/-- A call that is neither a look-up of the second delivery nor a save changes nothing. -/
theorem Led.call (h : Led r kept origin x y i j a b cell calls) {e : Nat × Call}
    (other : e ≠ (y.number, .lookUp)) : Led r kept origin x y i j a b cell (calls ++ [e]) := by
  refine ⟨h.past, h.seen, List.mem_append_left _ h.saved, fun hj => ?_, h.before, fun hj => ?_⟩
  · rw [pair_sublist_concat]
    rcases h.view hj with ⟨seen, hb⟩ | ⟨unseen, hb⟩
    · exact .inl ⟨.inl seen, hb⟩
    · exact .inr ⟨by simp [unseen, other], hb⟩
  · exact ⟨(h.after hj).1, (h.after hj).2.trans (List.sublist_append_left calls [e])⟩

theorem Unled.call (h : Unled origin x y i j a b cell calls) {e : Nat × Call}
    (other_x : e ≠ (x.number, .save)) (other_y : e ≠ (y.number, .save)) :
    Unled origin x y i j a b cell (calls ++ [e]) :=
  ⟨h.early_x, h.early_y, h.seen_x, h.seen_y, h.stored,
    by simp [h.unsaved_x, Ne.symm other_x], by simp [h.unsaved_y, Ne.symm other_y]⟩

/-- A call of another task changes nothing. -/
theorem Ordered.call (h : Ordered r kept origin x y i j a b cell calls) {e : Nat × Call}
    (other_x : e.1 ≠ x.number) (other_y : e.1 ≠ y.number) :
    Ordered r kept origin x y i j a b cell (calls ++ [e]) := by
  have ne : ∀ {k : Nat} (call : Call), e.1 ≠ k → e ≠ (k, call) := by
    rintro k call hk rfl
    exact hk rfl
  rcases h with h | h | h
  · exact .inl (h.call (ne _ other_x) (ne _ other_y))
  · exact .inr (.inl (h.call (ne _ other_y)))
  · exact .inr (.inr (h.call (ne _ other_x)))

theorem Ordered.lookUp (h : Ordered r kept origin x y 0 j a b cell calls) :
    Ordered r kept origin x y 1 j cell b cell (calls ++ [(x.number, .lookUp)]) := by
  rcases h with h | h | h
  · refine .inl ⟨by decide, h.early_y, fun _ => h.stored, h.seen_y, h.stored, ?_, ?_⟩
    · simp [h.unsaved_x]
    · simp [h.unsaved_y]
  · exact absurd h.past (by decide)
  · have seen : [(y.number, Call.save), (x.number, Call.lookUp)].Sublist
        (calls ++ [(x.number, .lookUp)]) :=
      pair_sublist_concat.mpr (.inr ⟨h.saved, rfl⟩)
    exact .inr (.inr ⟨h.past, h.seen, List.mem_append_left _ h.saved,
      fun _ => .inl ⟨seen, h.before (by decide)⟩, fun _ => h.before (by decide),
      fun late => absurd late (by decide)⟩)

theorem Ordered.read (h : Ordered r kept origin x y 1 j a b cell calls) :
    Ordered r kept origin x y 2 j a b cell calls := by
  rcases h with h | h | h
  · exact .inl ⟨by decide, h.early_y, fun _ => h.seen_x (by decide), h.seen_y, h.stored,
      h.unsaved_x, h.unsaved_y⟩
  · exact absurd h.past (by decide)
  · exact .inr (.inr ⟨h.past, h.seen, h.saved, fun _ => h.view (by decide),
      fun _ => h.before (by decide), fun late => absurd late (by decide)⟩)

theorem Ordered.save (h : Ordered r kept origin x y 2 j a b cell calls) :
    Ordered r kept origin x y 3 j a b (kept (x.refreshed r a)) (calls ++ [(x.number, .save)]) := by
  rcases h with h | h | h
  · have seen : a = origin := h.seen_x (by decide)
    refine .inr (.inl ⟨by decide, seen, by simp, fun hj => .inr ⟨?_, h.seen_y hj⟩,
      fun _ => by rw [seen], fun late => absurd (Nat.le_trans late h.early_y) (by decide)⟩)
    rw [pair_sublist_concat]
    rintro (before | ⟨-, same⟩)
    · exact h.unsaved_x (mem_of_pair_sublist before)
    · exact nomatch (Prod.mk.inj same).2
  · exact absurd h.past (by decide)
  · have later : [(y.number, Call.save), (x.number, Call.save)].Sublist
        (calls ++ [(x.number, .save)]) :=
      pair_sublist_concat.mpr (.inr ⟨h.saved, rfl⟩)
    have called := h.call (e := (x.number, .save)) (by simp)
    exact .inr (.inr ⟨h.past, h.seen, called.saved, fun _ => called.view (by decide),
      fun early => absurd early (by decide), fun _ => ⟨rfl, later⟩⟩)

theorem Ordered.publish (h : Ordered r kept origin x y 3 j a b cell calls) :
    Ordered r kept origin x y 4 j a b cell (calls ++ [(x.number, .publish)]) := by
  rcases h with h | h | h
  · exact absurd h.early_x (by decide)
  · have called := h.call (e := (x.number, .publish)) (by simp)
    exact .inr (.inl ⟨by decide, called.seen, called.saved, called.view, called.before,
      called.after⟩)
  · have called := h.call (e := (x.number, .publish)) (by simp)
    exact .inr (.inr ⟨called.past, called.seen, called.saved, fun _ => called.view (by decide),
      fun early => absurd early (by decide), fun _ => called.after (by decide)⟩)

end OrderSteps

/-! ## What is published -/

/-- The updates among some messages that concern an address. -/
def updatesOf (address : String) (published : List RoutedUpdate) : List BalanceUpdate :=
  (published.map (·.update)).filter fun u => sameIgnoringCase u.address address

/-- The updates of two deliveries in the order in which they were told. -/
def Told (x y i j : Nat) (u v : BalanceUpdate) (calls : List (Nat × Call))
    (updates : List BalanceUpdate) : Prop :=
  (i ≤ 3 ∧ j ≤ 3 ∧ updates = []) ∨
  (4 ≤ i ∧ j ≤ 3 ∧ updates = [u] ∧ (x, Call.publish) ∈ calls) ∨
  (i ≤ 3 ∧ 4 ≤ j ∧ updates = [v] ∧ (y, Call.publish) ∈ calls) ∨
  (4 ≤ i ∧ 4 ≤ j ∧
    ((updates = [u, v] ∧ [(x, Call.publish), (y, Call.publish)].Sublist calls) ∨
      (updates = [v, u] ∧ [(y, Call.publish), (x, Call.publish)].Sublist calls)))

namespace Told

variable {x y i j : Nat} {u v : BalanceUpdate} {calls : List (Nat × Call)}
  {updates : List BalanceUpdate}

theorem symm (h : Told x y i j u v calls updates) : Told y x j i v u calls updates := by
  rcases h with ⟨hi, hj, h⟩ | ⟨hi, hj, h⟩ | ⟨hi, hj, h⟩ | ⟨hi, hj, h⟩
  · exact .inl ⟨hj, hi, h⟩
  · exact .inr (.inr (.inl ⟨hj, hi, h⟩))
  · exact .inr (.inl ⟨hj, hi, h⟩)
  · exact .inr (.inr (.inr ⟨hj, hi, h.symm⟩))

/-- A call changes nothing of what has been told. -/
theorem call (h : Told x y i j u v calls updates) (e : Nat × Call) :
    Told x y i j u v (calls ++ [e]) updates := by
  have grows : ∀ {l : List (Nat × Call)}, l.Sublist calls → l.Sublist (calls ++ [e]) :=
    fun h => h.trans (List.sublist_append_left calls [e])
  rcases h with h | ⟨hi, hj, hu, h⟩ | ⟨hi, hj, hv, h⟩ | ⟨hi, hj, h⟩
  · exact .inl h
  · exact .inr (.inl ⟨hi, hj, hu, List.mem_append_left _ h⟩)
  · exact .inr (.inr (.inl ⟨hi, hj, hv, List.mem_append_left _ h⟩))
  · exact .inr (.inr (.inr ⟨hi, hj, h.imp (fun h => ⟨h.1, grows h.2⟩) fun h => ⟨h.1, grows h.2⟩⟩))

/-- Before it is told an update is open. -/
theorem early (h : Told x y i j u v calls updates) (hi : i ≤ 3) {k : Nat} (hk : k ≤ 3)
    (u' : BalanceUpdate) : Told x y k j u' v calls updates := by
  rcases h with ⟨-, hj, h⟩ | ⟨late, -⟩ | ⟨-, hj, h⟩ | ⟨late, -⟩
  · exact .inl ⟨hk, hj, h⟩
  · omega
  · exact .inr (.inr (.inl ⟨hk, hj, h⟩))
  · omega

theorem publish (h : Told x y 3 j u v calls updates) :
    Told x y 4 j u v (calls ++ [(x, .publish)]) (updates ++ [u]) := by
  rcases h with ⟨-, hj, rfl⟩ | ⟨late, -⟩ | ⟨-, hj, rfl, told⟩ | ⟨late, -⟩
  · exact .inr (.inl ⟨Nat.le_refl 4, hj, rfl, by simp⟩)
  · exact absurd late (by decide)
  · exact .inr (.inr (.inr ⟨Nat.le_refl 4, hj, .inr ⟨rfl,
      pair_sublist_concat.mpr (.inr ⟨told, rfl⟩)⟩⟩))
  · exact absurd late (by decide)

end Told

/-! ## Tasks about other accounts -/

/-- **Whether a task keeps away from an account.** A registration may ask for one that there is. -/
def Aside (r : Reconciler) (address : String) : CrewTask → Prop
  | .delivery (.arrived d) =>
    ∀ n, Notification.ofDelivery r.routing d = .ok n → lower n.address ≠ lower address
  | .delivery (.found _ account) => lower account.address ≠ lower address
  | .delivery (.refreshed _ account) => lower account.address ≠ lower address
  | .delivery (.saved _ account) => lower account.address ≠ lower address
  | .delivery (.done _) => True
  | .registration (.missing other) => lower other ≠ lower address
  | .registration _ => True

/-- What a turn leaves as it was if it does not concern an account. -/
structure Undisturbed (address : String) (v : World) (turn : Turn) : Prop where
  logs : turn.world.logs = v.logs
  kept : turn.world.accounts.kept = v.accounts.kept
  stored : turn.world.accounts.get? address = v.accounts.get? address
  untold : updatesOf address turn.published.toList = []

theorem Undisturbed.of_same {address : String} {v : World} {t : CrewTask} {call : Option Call} :
    Undisturbed address v ⟨t, v, call, none⟩ := ⟨rfl, rfl, rfl, rfl⟩

theorem Undisturbed.of_save {address : String} {v : World} {t : CrewTask} {call : Option Call}
    {account : Account} (h : lower account.address ≠ lower address) :
    Undisturbed address v
      ⟨t, { v with accounts := v.accounts.save account }, call, none⟩ :=
  ⟨rfl, funext fun b => AccountStore.kept_save v.accounts account b,
    AccountStore.get?_save_of_ne (Ne.symm h) v.accounts, rfl⟩

theorem Aside.turn_delivery {r : Reconciler} {address : String} {g : Handling}
    (h : Aside r address (.delivery g)) (v : World) :
    Aside r address ((CrewTask.delivery g).turn r v).task ∧
      Undisturbed address v ((CrewTask.delivery g).turn r v) := by
  have does := r.stepped g v
  simp only [CrewTask.turn]
  generalize r.step g v = next at does ⊢
  cases does with
  | @found d n account tells safe held =>
    have other : lower account.address ≠ lower address := by
      rw [AccountStore.lower_address_of_get? held]
      exact h n tells
    exact ⟨other, .of_same⟩
  | refreshed => exact ⟨h, .of_same⟩
  | saved => exact ⟨h, .of_save h⟩
  | @told n account =>
    refine ⟨trivial, rfl, rfl, rfl, ?_⟩
    have apart : lower account.address ≠ lower address := h
    have other : sameIgnoringCase account.address address = false := by
      simpa [sameIgnoringCase] using apart
    simp [updatesOf, Handling.published?, BalanceUpdate.ofAccount, other]
  | dropped | unread | unsaved | untold | done => exact ⟨trivial, .of_same⟩

theorem Aside.turn_registration {r : Reconciler} {address : String} {g : Registration}
    (h : Aside r address (.registration g)) {v : World} (stored : v.accounts.Holds address) :
    Aside r address ((CrewTask.registration g).turn r v).task ∧
      Undisturbed address v ((CrewTask.registration g).turn r v) := by
  have does := g.turned r v
  generalize (CrewTask.registration g).turn r v = turn at does ⊢
  cases does with
  | missing absent =>
    -- the account is there, so it cannot be missing under another spelling
    exact ⟨fun same => absent (stored.congr same.symm), .of_same⟩
  | @created other =>
    have new : lower (Account.register other).address ≠ lower address := by
      simpa [Account.register, Aside] using h
    exact ⟨trivial, .of_save new⟩
  | existing | unread | unsaved => exact ⟨trivial, .of_same⟩
  | finished => exact ⟨h, .of_same⟩

/-- **A task that keeps away from an account goes on to do so,** and leaves it alone. -/
theorem Aside.turn {r : Reconciler} {address : String} {t : CrewTask} (h : Aside r address t)
    {v : World} (stored : v.accounts.Holds address) :
    Aside r address (t.turn r v).task ∧ Undisturbed address v (t.turn r v) := by
  cases t with
  | delivery g => exact h.turn_delivery v
  | registration g => exact h.turn_registration stored

/-! ## Both deliveries in one run -/

/-- A delivery has taken so many steps and found the account given, or it has not joined yet. -/
def Stands (r : Reconciler) (c : Crew) (p : Party) (i : Nat) (account : Account) : Prop :=
  c.tasks[p.number]? = some (.delivery (p.stage r account i)) ∨
    (i = 0 ∧ c.tasks[p.number]? = none)

/-- **Two deliveries of one account, after so many steps each:** the accounts they have found, the
account that is stored, the order of their calls, and what they have told. -/
structure Together (r : Reconciler) (w : World) (address : String) (origin : Account) (x y : Party)
    (c : Crew) (i j : Nat) (a b cell : Account) : Prop where
  logs : c.world.logs = w.logs
  kept : c.world.accounts.kept = w.accounts.kept
  stored : c.world.accounts.get? address = .ok (some cell)
  at_x : Stands r c x i a
  at_y : Stands r c y j b
  own_x : 1 ≤ i → lower a.address = lower address
  own_y : 1 ≤ j → lower b.address = lower address
  order : Ordered r w.accounts.kept origin x y i j a b cell c.calls
  told : Told x.number y.number i j (r.told x.notification x.fresh a)
    (r.told y.notification y.fresh b) c.calls (updatesOf address c.published)
  others : ∀ k t, k ≠ x.number → k ≠ y.number → c.tasks[k]? = some t → Aside r address t

namespace Together

variable {r : Reconciler} {w : World} {address : String} {origin : Account} {x y : Party} {c : Crew}
  {i j : Nat} {a b cell : Account}

theorem symm (h : Together r w address origin x y c i j a b cell) :
    Together r w address origin y x c j i b a cell where
  logs := h.logs
  kept := h.kept
  stored := h.stored
  at_x := h.at_y
  at_y := h.at_x
  own_x := h.own_y
  own_y := h.own_x
  order := h.order.symm
  told := h.told.symm
  others := fun k t hy hx held => h.others k t hx hy held

theorem updatesOf_append (address : String) (p q : List RoutedUpdate) :
    updatesOf address (p ++ q) = updatesOf address p ++ updatesOf address q := by
  simp [updatesOf]

/-- A turn of another task leaves both deliveries as they are. -/
theorem turn_other (h : Together r w address origin x y c i j a b cell) {k : Nat} {t : CrewTask}
    (held : c.tasks[k]? = some t) (hx : k ≠ x.number) (hy : k ≠ y.number) :
    Together r w address origin x y (c.take k (t.turn r c.world)) i j a b cell := by
  obtain ⟨aside, undisturbed⟩ := (h.others k t hx hy held).turn (.of_get? h.stored)
  have stands : ∀ {p : Party} {i : Nat} {account : Account}, k ≠ p.number →
      Stands r c p i account → Stands r (c.take k (t.turn r c.world)) p i account := by
    intro p i account apart stands
    unfold Stands
    rwa [Crew.task_take_of_ne (Ne.symm apart)]
  have calls : Ordered r w.accounts.kept origin x y i j a b cell
      (c.take k (t.turn r c.world)).calls ∧
      Told x.number y.number i j (r.told x.notification x.fresh a)
        (r.told y.notification y.fresh b) (c.take k (t.turn r c.world)).calls
        (updatesOf address c.published) := by
    -- at most one call is added, under the number of the other task
    simp only [Crew.take]
    cases (t.turn r c.world).call with
    | none => simpa using ⟨h.order, h.told⟩
    | some call => exact ⟨h.order.call hx hy, h.told.call _⟩
  exact {
    logs := undisturbed.logs.trans h.logs
    kept := undisturbed.kept.trans h.kept
    stored := undisturbed.stored.trans h.stored
    at_x := stands hx h.at_x
    at_y := stands hy h.at_y
    own_x := h.own_x
    own_y := h.own_y
    order := calls.1
    told := by
      show Told _ _ _ _ _ _ _ (updatesOf address (c.published ++ _))
      rw [updatesOf_append, undisturbed.untold, List.append_nil]
      exact calls.2
    others := by
      intro l s lx ly standing
      by_cases same : l = k
      · subst same
        rw [Crew.task_take_self held, Option.some.injEq] at standing
        exact standing ▸ aside
      · rw [Crew.task_take_of_ne same] at standing
        exact h.others l s lx ly standing }

/-- What has to be known of a turn of the first delivery. -/
theorem after_turn (h : Together r w address origin x y c i j a b cell) {t : CrewTask}
    (held : c.tasks[x.number]? = some t) (apart : x.number ≠ y.number) {turn : Turn} {i' : Nat}
    {a' cell' : Account} (stage : turn.task = .delivery (x.stage r a' i'))
    (logs : turn.world.logs = c.world.logs)
    (kept : turn.world.accounts.kept = c.world.accounts.kept)
    (stored : turn.world.accounts.get? address = .ok (some cell'))
    (own : 1 ≤ i' → lower a'.address = lower address)
    (order : Ordered r w.accounts.kept origin x y i' j a' b cell'
      (c.calls ++ (turn.call.map fun call => (x.number, call)).toList))
    (told : Told x.number y.number i' j (r.told x.notification x.fresh a')
      (r.told y.notification y.fresh b)
      (c.calls ++ (turn.call.map fun call => (x.number, call)).toList)
      (updatesOf address c.published ++ updatesOf address turn.published.toList)) :
    Together r w address origin x y (c.take x.number turn) i' j a' b cell' where
  logs := logs.trans h.logs
  kept := kept.trans h.kept
  stored := stored
  at_x := .inl (by rw [Crew.task_take_self held, stage])
  at_y := by
    unfold Stands
    rw [Crew.task_take_of_ne (Ne.symm apart)]
    exact h.at_y
  own_x := own
  own_y := h.own_y
  order := order
  told := by
    rw [← updatesOf_append] at told
    exact told
  others := by
    intro k t kx ky standing
    rw [Crew.task_take_of_ne kx] at standing
    exact h.others k t kx ky standing

/-- **A turn of the first delivery takes it one stage further.** -/
theorem turn_first (h : Together r w address origin x y c i j a b cell) {t : CrewTask}
    (held : c.tasks[x.number]? = some t) (apart : x.number ≠ y.number) (safe : r.Unfailing)
    (amounts : r.Amounts w x.delivery x.notification x.fresh)
    (concerns : lower x.notification.address = lower address) :
    ∃ i' a' cell', Together r w address origin x y (c.take x.number (t.turn r c.world)) i' j a' b
      cell' := by
  obtain rfl : t = .delivery (x.stage r a i) := by
    rcases h.at_x with standing | ⟨-, absent⟩
    · exact Option.some.inj (held.symm.trans standing)
    · exact nomatch held.symm.trans absent
  match i, h with
  | 0, h =>
    -- it looks the account up, and sees it as it is stored at this moment
    have found : c.world.accounts.get? x.notification.address = .ok (some cell) := by
      rw [AccountStore.get?_congr concerns, h.stored]
    have own : lower cell.address = lower address := AccountStore.lower_address_of_get? h.stored
    have step := Reconciler.step_arrived safe.getAccount amounts.tells found
    refine ⟨1, cell, cell, h.after_turn held apart ?_ ?_ ?_ ?_ (fun _ => own) ?_ ?_⟩
    all_goals simp only [Party.stage, CrewTask.turn, step]
    · exact h.stored
    · exact h.order.lookUp
    · simpa [Handling.call?, Handling.published?, updatesOf] using
        (h.told.call _).early (by decide) (by decide) _
  | 1, h =>
    -- it reads the chain, and nothing that is shared changes
    obtain ⟨asked, step⟩ := Reconciler.step_found amounts h.logs a
    refine ⟨2, a, cell, h.after_turn held apart ?_ ?_ ?_ ?_ (fun _ => h.own_x (by decide)) ?_ ?_⟩
    all_goals simp only [Party.stage, CrewTask.turn, step]
    · rfl
    · exact h.stored
    · simpa [Handling.call?] using h.order.read
    · simpa [Handling.call?, Handling.published?, updatesOf] using
        h.told.early (by decide) (by decide) _
  | 2, h =>
    -- it saves what it has in hand over whatever is stored by now
    have own : lower (x.refreshed r a).address = lower address := h.own_x (by decide)
    have step := Reconciler.step_refreshed safe.saveAccount x.notification (x.refreshed r a) c.world
    refine ⟨3, a, w.accounts.kept (x.refreshed r a), h.after_turn held apart ?_ ?_ ?_ ?_
      (fun _ => h.own_x (by decide)) ?_ ?_⟩
    all_goals simp only [Party.stage, CrewTask.turn, step]
    · exact funext fun b => AccountStore.kept_save c.world.accounts (x.refreshed r a) b
    · rw [AccountStore.get?_save own.symm, h.kept]
    · exact h.order.save
    · simpa [Handling.call?, Handling.published?, updatesOf] using
        (h.told.call _).early (by decide) (by decide) _
  | 3, h =>
    -- it tells the account that it has saved, which another one may have replaced
    have own : lower a.address = lower address := h.own_x (by decide)
    have step := Reconciler.step_saved safe.publish x.notification (x.refreshed r a) c.world
    refine ⟨4, a, cell, h.after_turn held apart ?_ ?_ ?_ ?_ (fun _ => own) ?_ ?_⟩
    all_goals simp only [Party.stage, CrewTask.turn, step]
    · rfl
    · rfl
    · rfl
    · exact h.stored
    · exact h.order.publish
    · have concerned : sameIgnoringCase a.address address = true := sameIgnoringCase_iff.mpr own
      simpa [Handling.call?, Handling.published?, updatesOf, Reconciler.told,
        BalanceUpdate.ofAccount, Party.refreshed, concerned] using h.told.publish
  | i + 4, h =>
    refine ⟨i + 4, a, cell, h.after_turn held apart rfl rfl rfl h.stored h.own_x ?_ ?_⟩
    · simpa [Party.stage, CrewTask.turn, Reconciler.step_done, Handling.call?] using h.order
    · simpa [Party.stage, CrewTask.turn, Reconciler.step_done, Handling.call?, Handling.published?,
        updatesOf] using h.told

/-- The task of a number that joins stands at its first stage, and no other one changes. -/
theorem stands_join {p : Party} {account : Account} (h : Stands r c p i account)
    (numbered : c.Numbered) {t : CrewTask}
    (cast : c.joined.length = p.number → t = .delivery (.arrived p.delivery)) :
    Stands r (c.join t) p i account := by
  have sized : c.tasks.length = c.joined.length := numbered
  unfold Stands
  simp only [Crew.join]
  rcases h with standing | ⟨rfl, absent⟩
  · have bound : p.number < c.tasks.length := (List.getElem?_eq_some_iff.mp standing).1
    exact .inl (by rw [List.getElem?_append_left bound, standing])
  · have past : c.tasks.length ≤ p.number := List.getElem?_eq_none_iff.mp absent
    rw [List.getElem?_append_right past]
    by_cases now : c.joined.length = p.number
    · obtain rfl := cast now
      exact .inl (by simp [sized, now, Party.stage])
    · refine .inr ⟨rfl, List.getElem?_eq_none_iff.mpr ?_⟩
      simp only [List.length_singleton]
      omega

/-- A task that joins leaves both deliveries as they are. -/
theorem join (h : Together r w address origin x y c i j a b cell) (numbered : c.Numbered) {t : CrewTask}
    (cast_x : c.joined.length = x.number → t = .delivery (.arrived x.delivery))
    (cast_y : c.joined.length = y.number → t = .delivery (.arrived y.delivery))
    (cast : c.joined.length ≠ x.number → c.joined.length ≠ y.number → Aside r address t) :
    Together r w address origin x y (c.join t) i j a b cell where
  logs := h.logs
  kept := h.kept
  stored := h.stored
  at_x := stands_join h.at_x numbered cast_x
  at_y := stands_join h.at_y numbered cast_y
  own_x := h.own_x
  own_y := h.own_y
  order := h.order
  told := h.told
  others := by
    intro k s kx ky standing
    have sized : c.tasks.length = c.joined.length := numbered
    by_cases old : k < c.tasks.length
    · rw [Crew.join, List.getElem?_append_left old] at standing
      exact h.others k s kx ky standing
    · rw [Crew.join, List.getElem?_append_right (Nat.le_of_not_lt old)] at standing
      obtain ⟨first, rfl⟩ : k - c.tasks.length = 0 ∧ t = s := by
        obtain ⟨bound, same⟩ := List.getElem?_eq_some_iff.mp standing
        simp only [List.length_singleton] at bound
        exact ⟨by omega, by simpa using same⟩
      exact cast (by omega) (by omega)

end Together

/-! ## All runs -/

/-- **Who takes part in a crew:** two deliveries under their numbers, and otherwise only deliveries
that name another address. -/
structure Cast (r : Reconciler) (address : String) (x y : Party) (c : Crew) : Prop where
  first : ∀ t, c.joined[x.number]? = some t → t = .delivery (.arrived x.delivery)
  second : ∀ t, c.joined[y.number]? = some t → t = .delivery (.arrived y.delivery)
  others : ∀ k d n, k ≠ x.number → k ≠ y.number →
    c.joined[k]? = some (.delivery (.arrived d)) → Notification.ofDelivery r.routing d = .ok n →
    lower n.address ≠ lower address

section Runs

variable {r : Reconciler} {w : World} {address : String} {origin : Account} {x y : Party}

theorem Cast.of_step {c : Crew} {e : CrewEvent} (h : Cast r address x y (c.step r e)) :
    Cast r address x y c :=
  ⟨fun t ht => h.first t (Crew.joined_step ht e), fun t ht => h.second t (Crew.joined_step ht e),
    fun k d n kx ky ht => h.others k d n kx ky (Crew.joined_step ht e)⟩

/-- **One event keeps two deliveries together.** -/
theorem together_step {c : Crew} (apart : x.number ≠ y.number) (safe : r.Unfailing)
    (amounts_x : r.Amounts w x.delivery x.notification x.fresh)
    (amounts_y : r.Amounts w y.delivery y.notification y.fresh)
    (concerns_x : lower x.notification.address = lower address)
    (concerns_y : lower y.notification.address = lower address) (numbered : c.Numbered)
    {i j : Nat} {a b cell : Account} (h : Together r w address origin x y c i j a b cell)
    {e : CrewEvent} (cast : Cast r address x y (c.step r e)) :
    ∃ i j a b cell, Together r w address origin x y (c.step r e) i j a b cell := by
  have newest : ∀ t, (c.join t).joined[c.joined.length]? = some t := by simp [Crew.join]
  -- What joins under one of the two numbers is the delivery that the cast names.
  cases e with
  | deliver d =>
    have now := newest (.delivery (.arrived d))
    refine ⟨i, j, a, b, cell, h.join numbered (fun same => cast.first _ (same ▸ now))
      (fun same => cast.second _ (same ▸ now)) fun lx ly n tells => ?_⟩
    exact cast.others _ d n lx ly now tells
  | register other =>
    have now := newest (.registration (.arrived other))
    exact ⟨i, j, a, b, cell, h.join numbered (fun same => cast.first _ (same ▸ now))
      (fun same => cast.second _ (same ▸ now)) fun _ _ => trivial⟩
  | advance k =>
    cases held : c.tasks[k]? with
    | none =>
      rw [Crew.step_advance_none held]
      exact ⟨i, j, a, b, cell, h⟩
    | some t =>
      rw [Crew.step_advance held]
      by_cases hx : k = x.number
      · subst hx
        obtain ⟨i, a, cell, next⟩ := h.turn_first held apart safe amounts_x concerns_x
        exact ⟨i, j, a, b, cell, next⟩
      by_cases hy : k = y.number
      · subst hy
        obtain ⟨j, b, cell, next⟩ := h.symm.turn_first held (Ne.symm apart) safe amounts_y concerns_y
        exact ⟨i, j, a, b, cell, next.symm⟩
      exact ⟨i, j, a, b, cell, h.turn_other held hx hy⟩

/-- Two deliveries are together in every run. -/
theorem together_run (apart : x.number ≠ y.number) (safe : r.Unfailing)
    (amounts_x : r.Amounts w x.delivery x.notification x.fresh)
    (amounts_y : r.Amounts w y.delivery y.notification y.fresh)
    (concerns_x : lower x.notification.address = lower address)
    (concerns_y : lower y.notification.address = lower address)
    (registered : w.accounts.get? address = .ok (some origin)) (events : List CrewEvent)
    (cast : Cast r address x y ((Crew.idle w).run r events)) :
    ∃ i j a b cell, Together r w address origin x y ((Crew.idle w).run r events) i j a b cell := by
  suffices all : ((Crew.idle w).run r events).Numbered ∧
      (Cast r address x y ((Crew.idle w).run r events) →
        ∃ i j a b cell,
          Together r w address origin x y ((Crew.idle w).run r events) i j a b cell) from
    all.2 cast
  refine Crew.run_induction (P := fun c => c.Numbered ∧ (Cast r address x y c →
    ∃ i j a b cell, Together r w address origin x y c i j a b cell))
    ⟨Crew.numbered_idle w, fun _ => ?_⟩ ?_ events
  · refine ⟨0, 0, origin, origin, origin, rfl, rfl, registered, .inr ⟨rfl, rfl⟩, .inr ⟨rfl, rfl⟩,
      fun late => absurd late (by decide), fun late => absurd late (by decide), ?_, ?_, ?_⟩
    · exact .inl ⟨by decide, by decide, fun _ => rfl, fun _ => rfl, rfl, by simp [Crew.idle],
        by simp [Crew.idle]⟩
    · exact .inl ⟨by decide, by decide, rfl⟩
    · intro k t _ _ held
      simp [Crew.idle] at held
  · rintro c e ⟨numbered, before⟩
    refine ⟨Crew.numbered_step numbered e, fun cast => ?_⟩
    obtain ⟨i, j, a, b, cell, together⟩ := before cast.of_step
    exact together_step apart safe amounts_x amounts_y concerns_x concerns_y numbered together cast

end Runs

/-! ## What is left in the end -/

/-- The world that the delivery which saves last works from: as the first one leaves it, if it is
looked at after the first one has saved, and as it was otherwise. -/
def Crew.seen (r : Reconciler) (w : World) (c : Crew) (first last : Nat) (d : Delivery) : World :=
  if [(first, Call.save), (last, Call.lookUp)].Sublist c.calls then (r.handle d w).2.1 else w

/-- **What becomes of two deliveries of one account** when the first one saves first. -/
structure Settled (r : Reconciler) (w : World) (address : String) (c : Crew) (first last : Nat)
    (d e : Delivery) : Prop where
  saves : [(first, Call.save), (last, Call.save)].Sublist c.calls
  /-- The first one to save ends as if it were alone. -/
  first_result : c.tasks[first]? = some (.delivery (.done (r.handle d w).1))
  /-- The last one ends as if it were handled in the world that it has seen. -/
  last_result : c.tasks[last]? = some (.delivery (.done (r.handle e (c.seen r w first last d)).1))
  /-- The account is stored as the last one leaves it in that world. -/
  stored : c.world.accounts.get? address =
    (r.handle e (c.seen r w first last d)).2.1.accounts.get? address
  /-- Both are told once each, with the balances they saved; those of the last one are stored. -/
  told : ∃ u v account, (r.handle d w).1 = .ok (.updated u) ∧
    (r.handle e (c.seen r w first last d)).1 = .ok (.updated v) ∧
    ((updatesOf address c.published = [u, v] ∧
        [(first, Call.publish), (last, Call.publish)].Sublist c.calls) ∨
      (updatesOf address c.published = [v, u] ∧
        [(last, Call.publish), (first, Call.publish)].Sublist c.calls)) ∧
    c.world.accounts.get? address = .ok (some account) ∧
    account.balance = v.balance ∧ account.tokens = v.tokens
  /-- Each token that the last one refreshed is stored with its last refreshed balance, or not at
  all if that is zero. -/
  tokens : ∀ n fresh front t back account, Notification.ofDelivery r.routing e = .ok n →
    (readBalances r.compiler r.chain r.faults w n.address n.transaction).answer = .ok fresh →
    fresh.tokens = front ++ t :: back → (∀ s ∈ back, s.sameToken t = false) →
    c.world.accounts.get? address = .ok (some account) →
    account.tokens.filter (·.sameToken t) = if t.isZero then [] else [t]

section Settling

variable {r : Reconciler} {w : World} {address : String} {origin : Account} {x y : Party} {c : Crew}
  {i j : Nat} {a b cell : Account}

theorem four_le_of_done {p : Party} {i : Nat} {account : Account} {result : Except Failure Outcome}
    (h : p.stage r account i = .done result) :
    4 ≤ i ∧ result = .ok (.updated (r.told p.notification p.fresh account)) := by
  match i, h with
  | 0, h | 1, h | 2, h | 3, h => exact nomatch h
  | i + 4, h => exact ⟨Nat.le_add_left 4 i, (Handling.done.inj h).symm⟩

theorem Stands.done {p : Party} {i : Nat} {account : Account} {result : Except Failure Outcome}
    (h : Stands r c p i account) (ended : c.tasks[p.number]? = some (.delivery (.done result))) :
    4 ≤ i ∧ result = .ok (.updated (r.told p.notification p.fresh account)) := by
  rcases h with standing | ⟨-, absent⟩
  · exact four_le_of_done (CrewTask.delivery.inj (Option.some.inj (standing.symm.trans ended)))
  · exact nomatch ended.symm.trans absent

/-- Handling a delivery from an account that is stored leaves its refreshed account stored. -/
theorem handle_stores {v : World} (safe : r.Unfailing)
    (amounts : r.Amounts w y.delivery y.notification y.fresh) (logs : v.logs = w.logs)
    (kept : v.accounts.kept = w.accounts.kept)
    (concerns : lower y.notification.address = lower address)
    (stored : v.accounts.get? address = .ok (some b)) :
    (r.handle y.delivery v).1 = .ok (.updated (r.told y.notification y.fresh b)) ∧
      (r.handle y.delivery v).2.1.accounts.get? address =
        .ok (some (w.accounts.kept (y.refreshed r b))) ∧
      (r.handle y.delivery v).2.1.logs = w.logs ∧
      (r.handle y.delivery v).2.1.accounts.kept = w.accounts.kept := by
  have amounts' : r.Amounts v y.delivery y.notification y.fresh :=
    ⟨amounts.tells, by rw [Reconciler.readBalances_congr logs]; exact amounts.reads⟩
  have found : v.accounts.get? y.notification.address = .ok (some b) := by
    rw [AccountStore.get?_congr concerns, stored]
  have own : lower address = lower (y.refreshed r b).address :=
    (AccountStore.lower_address_of_get? stored).symm
  obtain ⟨result, accounts, unchanged⟩ := Reconciler.handle_of_amounts safe amounts' found
  refine ⟨result, ?_, unchanged.trans logs, ?_⟩
  · rw [accounts, ← kept]
    exact AccountStore.get?_save own v.accounts
  · rw [accounts, ← kept]
    exact funext fun account => AccountStore.kept_save v.accounts _ account

theorem balances_kept (store : AccountStore) (account : Account) :
    (store.kept account).balance = account.balance ∧ (store.kept account).tokens = account.tokens := by
  cases store <;> exact ⟨rfl, rfl⟩

/-- **When both are done and the first one has saved first,** they are settled that way. -/
theorem Together.settled (h : Together r w address origin x y c i j a b cell)
    (led : Led r w.accounts.kept origin x y i j a b cell c.calls) (safe : r.Unfailing)
    (amounts_x : r.Amounts w x.delivery x.notification x.fresh)
    (amounts_y : r.Amounts w y.delivery y.notification y.fresh)
    (concerns_x : lower x.notification.address = lower address)
    (concerns_y : lower y.notification.address = lower address)
    (registered : w.accounts.get? address = .ok (some origin))
    {result_x result_y : Except Failure Outcome}
    (ended_x : c.tasks[x.number]? = some (.delivery (.done result_x)))
    (ended_y : c.tasks[y.number]? = some (.delivery (.done result_y))) :
    Settled r w address c x.number y.number x.delivery y.delivery := by
  obtain ⟨late_x, rfl⟩ := h.at_x.done ended_x
  obtain ⟨late_y, rfl⟩ := h.at_y.done ended_y
  obtain rfl := led.seen
  obtain ⟨stored, order⟩ := led.after (by omega)
  obtain ⟨first, first_stored, first_logs, first_kept⟩ :=
    handle_stores safe amounts_x rfl rfl concerns_x registered
  -- whichever world the last one has seen, it holds the account that it found
  obtain ⟨last, last_stored, -⟩ : (r.handle y.delivery
      (c.seen r w x.number y.number x.delivery)).1 =
        .ok (.updated (r.told y.notification y.fresh b)) ∧
      (r.handle y.delivery (c.seen r w x.number y.number x.delivery)).2.1.accounts.get? address =
        .ok (some (w.accounts.kept (y.refreshed r b))) ∧ True := by
    rcases led.view (by omega) with ⟨after, rfl⟩ | ⟨before, rfl⟩
    · rw [Crew.seen, if_pos after]
      obtain ⟨last, stored, -⟩ :=
        handle_stores safe amounts_y first_logs first_kept concerns_y first_stored
      exact ⟨last, stored, trivial⟩
    · rw [Crew.seen, if_neg before]
      obtain ⟨last, stored, -⟩ := handle_stores safe amounts_y rfl rfl concerns_y registered
      exact ⟨last, stored, trivial⟩
  have held : c.world.accounts.get? address = .ok (some (w.accounts.kept (y.refreshed r b))) := by
    rw [h.stored, stored]
  obtain ⟨balance, tokens⟩ := balances_kept w.accounts (y.refreshed r b)
  refine ⟨order, by rw [first, ended_x], by rw [last, ended_y], by rw [held, last_stored],
    ⟨_, _, _, first, last, ?_, held, balance, tokens⟩, ?_⟩
  · rcases h.told with ⟨early, -⟩ | ⟨-, early, -⟩ | ⟨early, -⟩ | ⟨-, -, told⟩
    · omega
    · omega
    · omega
    · exact told
  · intro n fresh front t back account tells reads split lasts there
    obtain rfl : y.notification = n := Except.ok.inj (amounts_y.tells.symm.trans tells)
    obtain rfl : y.fresh = fresh := Except.ok.inj (amounts_y.reads.symm.trans reads)
    obtain rfl : w.accounts.kept (y.refreshed r b) = account :=
      Option.some.inj (Except.ok.inj (held.symm.trans there))
    rw [tokens]
    exact Account.merge_of_last split lasts b r.now

end Settling

/-! ## The main theorem -/

/-- **Two deliveries of one account that run at the same time,** in any order of their calls and
whatever else is done in between for other accounts. -/
theorem BusyWorkshop.overlapping_deliveries_settle {r : Reconciler} {w : World} {d e : Delivery}
    {u v : BalanceUpdate} (updates_d : (r.handle d w).1 = .ok (.updated u))
    (updates_e : (r.handle e w).1 = .ok (.updated v)) (one : lower u.address = lower v.address)
    {buffer prefetch : Nat} {events : List BusyEvent} {s : BusyWorkshop}
    (trace : (opened buffer prefetch w).trace r events = some s) {x y : Nat} (apart : x ≠ y)
    (joined_x : s.crew.joined[x]? = some (.delivery (.arrived d)))
    (joined_y : s.crew.joined[y]? = some (.delivery (.arrived e)))
    (others : ∀ k f n, k ≠ x → k ≠ y → s.crew.joined[k]? = some (.delivery (.arrived f)) →
      Notification.ofDelivery r.routing f = .ok n → lower n.address ≠ lower u.address)
    {result_x result_y : Except Failure Outcome}
    (ended_x : s.crew.tasks[x]? = some (.delivery (.done result_x)))
    (ended_y : s.crew.tasks[y]? = some (.delivery (.done result_y))) :
    Settled r w u.address s.crew x y d e ∨ Settled r w u.address s.crew y x e d := by
  obtain ⟨safe, n, fresh, origin, amounts_d, found, rfl⟩ := Reconciler.amounts_of_handle updates_d
  obtain ⟨-, m, fresh', account, amounts_e, found', rfl⟩ := Reconciler.amounts_of_handle updates_e
  obtain ⟨moves, run⟩ := crew_of_trace trace
  have own : lower origin.address = lower n.address := AccountStore.lower_address_of_get? found
  have own' : lower account.address = lower m.address := AccountStore.lower_address_of_get? found'
  have same : lower origin.address = lower account.address := one
  have registered : w.accounts.get? origin.address = .ok (some origin) := by
    rw [AccountStore.get?_congr own, found]
  show Settled r w origin.address s.crew x y d e ∨ Settled r w origin.address s.crew y x e d
  have cast : Cast r origin.address ⟨x, d, n, fresh⟩ ⟨y, e, m, fresh'⟩ s.crew := by
    refine ⟨fun t ht => ?_, fun t ht => ?_, others⟩
    · exact Option.some.inj (ht.symm.trans joined_x)
    · exact Option.some.inj (ht.symm.trans joined_y)
  have together := together_run (x := ⟨x, d, n, fresh⟩) (y := ⟨y, e, m, fresh'⟩) apart safe amounts_d
    amounts_e own.symm (own'.symm.trans same.symm) registered moves (run ▸ cast)
  rw [show (Crew.idle w).run r moves = s.crew from run.symm] at together
  obtain ⟨i, j, a, b, cell, together⟩ := together
  rcases together.order with unled | led | led
  · have late := (together.at_x.done ended_x).1
    exact absurd unled.early_x (by omega)
  · exact .inl (together.settled led safe amounts_d amounts_e own.symm (own'.symm.trans same.symm)
      registered ended_x ended_y)
  · exact .inr (together.symm.settled led safe amounts_e amounts_d (own'.symm.trans same.symm)
      own.symm registered ended_y ended_x)

/-! ## An update that is lost -/

namespace LostUpdate

/-- The account that both deliveries are about. -/
def holder : String := "0x00000000000000000000000000000000000000a1"

/-- A chain that answers every call with the word 32, which is the balance of any token, its decimals
and, as it starts with a zero byte, an empty symbol. -/
def chain : Chain where
  balance _ := .ok 32
  call _ _ := .ok "0x0000000000000000000000000000000000000000000000000000000000000020"

/-- No call fails. -/
def reconciler : Reconciler := ⟨⟨"app_eth"⟩, .transfer, chain, .none, 0⟩

/-- A world with the one account and one receiver. -/
def world : World :=
  ⟨.memory .empty, .memory (AccountMap.empty.save (.register holder)), ⟨16, [], 0, [some 0]⟩⟩

/-- A transaction of the account that moves one token. -/
def transferOf (token : String) : Delivery where
  routingKey := "app_eth_transaction." ++ holder
  body := ["\x7b\"hash\":\"0x9\",\"logs\":[\x7b\"address\":\"", token, "\",\"topics\":[\"",
    EventSchema.transferTopic, "\"]\x7d]\x7d"].flatMap Utf8.encode

def first : Delivery := transferOf "0x00000000000000000000000000000000000000c3"

def second : Delivery := transferOf "0x00000000000000000000000000000000000000d4"

/-- What such a transaction brings about for an account without tokens. -/
def updateOf (token : String) : BalanceUpdate :=
  ⟨holder, "32", [⟨"", "32", token, "32"⟩],
    some ⟨"0x9", [⟨token, [EventSchema.transferTopic], "", none⟩], []⟩⟩

/-- Both deliveries are sent and get a permit. -/
def starts : List BusyEvent :=
  [.consumer (.send first), .consumer (.accept 0), .consumer .take, .consumer .start,
    .consumer (.send second), .consumer (.accept 0), .consumer .take, .consumer .start]

/-- Both look the account up before either saves it, and the last one to save is told first. -/
def turns : List BusyEvent :=
  [.advance 0, .advance 0, .advance 1, .advance 1, .advance 0, .advance 1, .advance 1, .advance 0]

/-- The tokens of the stored account. -/
def stored (w : World) : Option (List TokenBalance) :=
  (w.accounts.get? holder).toOption.join.map (·.tokens)

/-- The events can happen, and this is what comes of them. -/
theorem trace_turns :
    ∃ between ∈ (BusyWorkshop.opened 16 2 world).trace reconciler starts,
      between.consumer.running = [.working first, .working second] ∧
      ∃ s ∈ between.trace reconciler turns,
        s.crew.joined = [.delivery (.arrived first), .delivery (.arrived second)] ∧
        s.crew.tasks =
          [.delivery (.done (.ok (.updated (updateOf "0x00000000000000000000000000000000000000c3")))),
            .delivery
              (.done (.ok (.updated (updateOf "0x00000000000000000000000000000000000000d4"))))] ∧
        (reconciler.handle first world).1 =
          .ok (.updated (updateOf "0x00000000000000000000000000000000000000c3")) ∧
        (reconciler.handle second world).1 =
          .ok (.updated (updateOf "0x00000000000000000000000000000000000000d4")) ∧
        stored s.crew.world ≠
          stored (reconciler.handle second (reconciler.handle first world).2.1).2.1 ∧
        stored s.crew.world ≠
          stored (reconciler.handle first (reconciler.handle second world).2.1).2.1 ∧
        (updatesOf holder s.crew.published).getLast?.map (·.tokens) ≠ stored s.crew.world := by
  decide +kernel

/-- **An update is lost:** two deliveries that run at the same time both end well, but what is stored
is not what either order of handling them leaves, and what was told last is not what is stored. -/
theorem update_can_be_lost :
    ∃ between s, (BusyWorkshop.opened 16 2 world).trace reconciler starts = some between ∧
      between.consumer.running = [.working first, .working second] ∧
      between.trace reconciler turns = some s ∧
      s.crew.tasks = [.delivery (.done (reconciler.handle first world).1),
        .delivery (.done (reconciler.handle second world).1)] ∧
      stored s.crew.world ≠
        stored (reconciler.handle second (reconciler.handle first world).2.1).2.1 ∧
      stored s.crew.world ≠
        stored (reconciler.handle first (reconciler.handle second world).2.1).2.1 ∧
      (updatesOf holder s.crew.published).getLast?.map (·.tokens) ≠ stored s.crew.world := by
  obtain ⟨between, hstarts, running, s, hturns, -, tasks, first_told, second_told, lost⟩ :=
    trace_turns
  refine ⟨between, s, hstarts, running, hturns, ?_, lost⟩
  rw [tasks, first_told, second_told]

/-- The two deliveries of this trace settle as all overlapping ones do. -/
theorem lost_update_settles :
    ∃ s, (BusyWorkshop.opened 16 2 world).trace reconciler (starts ++ turns) = some s ∧
      (Settled reconciler world holder s.crew 0 1 first second ∨
        Settled reconciler world holder s.crew 1 0 second first) := by
  obtain ⟨between, hstarts, -, s, hturns, joined, tasks, first_told, second_told, -⟩ := trace_turns
  have trace : (BusyWorkshop.opened 16 2 world).trace reconciler (starts ++ turns) = some s := by
    rw [BusyWorkshop.trace_append, hstarts]
    exact hturns
  refine ⟨s, trace, ?_⟩
  exact BusyWorkshop.overlapping_deliveries_settle first_told second_told rfl trace
    (x := 0) (y := 1) (by decide) (by rw [joined]; rfl) (by rw [joined]; rfl)
    (by
      intro k f n hx hy there
      rw [joined] at there
      have bound : k < 2 := (List.getElem?_eq_some_iff.mp there).1
      omega)
    (by rw [tasks]; rfl) (by rw [tasks]; rfl)

end LostUpdate

end TransferLedger
