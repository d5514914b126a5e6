/-
# TransferLedger.Proofs.Service.Stream -- a stream forwards what it receives, in order

A stream that is open offers its client a frame for each update that it receives, and nothing for a
notice or a message of the client. The text of the frame tells all of the update. The first event that
ends the stream is the last one that counts; a shutdown is the only one that adds a closing frame. What
a stream receives is told by the bus, which leaves out nothing without notice.
-/

import TransferLedger.Proofs.Reconcile.Bus
import TransferLedger.Proofs.Service.Frames
import TransferLedger.Service.Listening

namespace TransferLedger

/-! ## Events -/

namespace StreamEvent

/-- Whether an event ends a stream: an update does if its frame cannot be sent. -/
def ends : StreamEvent → (taken : Bool) → Bool
  | .update _, taken => !taken
  | .lagged _, _ | .clientMessage, _ => false
  | .busClosed, _ | .clientGone, _ | .shutdown, _ => true

/-- The update that was received with an event. -/
def update? : StreamEvent → Option RoutedUpdate
  | .update p => some p
  | _ => none

/-- Whether an event is of no account: a notice, or a message of the client that does not close. -/
def isSilent : StreamEvent → Bool
  | .lagged _ | .clientMessage => true
  | _ => false

/-- The frames that are offered at an event. -/
def offers : StreamEvent → List Frame
  | .update p => [.text p]
  | .shutdown => [.close]
  | _ => []

end StreamEvent

/-- The events that a stream lives to see: those up to the first that ends it. -/
def lived : List (StreamEvent × Bool) → List (StreamEvent × Bool)
  | [] => []
  | (e, taken) :: rest => if e.ends taken then [(e, taken)] else (e, taken) :: lived rest

/-- The updates received with some events, in order. -/
def updatesReceived (events : List (StreamEvent × Bool)) : List RoutedUpdate :=
  events.filterMap (·.1.update?)

/-- Whether the last of some events is a shutdown. -/
def endsInShutdown (events : List (StreamEvent × Bool)) : Bool :=
  events.getLast?.any (·.1 == .shutdown)

namespace Forwarding

variable {s : Forwarding}

/-! ## One event -/

/-- **An open stream offers what the event asks for.** -/
theorem step_of_open (h : s.ended = false) (e : StreamEvent) (taken : Bool) :
    s.step e taken = ⟨s.offered ++ e.offers, e.ends taken⟩ := by
  obtain ⟨offered, ended⟩ := s
  cases h
  cases e <;> simp [step, StreamEvent.offers, StreamEvent.ends]

theorem step_of_ended (h : s.ended = true) (e : StreamEvent) (taken : Bool) : s.step e taken = s :=
  if_pos h

/-! ## Some events -/

theorem run_cons (s : Forwarding) (e : StreamEvent) (taken : Bool)
    (rest : List (StreamEvent × Bool)) : s.run ((e, taken) :: rest) = (s.step e taken).run rest := rfl

theorem run_append (s : Forwarding) (front back : List (StreamEvent × Bool)) :
    s.run (front ++ back) = (s.run front).run back := List.foldl_append

/-- **A stream that has ended offers nothing more.** -/
theorem run_of_ended (h : s.ended = true) (events : List (StreamEvent × Bool)) :
    s.run events = s := by
  induction events with
  | nil => rfl
  | cons event rest ih =>
    obtain ⟨e, taken⟩ := event
    rw [run_cons, step_of_ended h, ih]

/-- **An open stream offers what the events ask for that it lives to see,** by induction on the events. -/
theorem run_of_open (h : s.ended = false) (events : List (StreamEvent × Bool)) :
    s.run events =
      ⟨s.offered ++ (lived events).flatMap (·.1.offers), events.any fun x => x.1.ends x.2⟩ := by
  induction events generalizing s with
  | nil =>
    obtain ⟨offered, ended⟩ := s
    cases h
    simp [run, lived]
  | cons event rest ih =>
    obtain ⟨e, taken⟩ := event
    rw [run_cons, step_of_open h, lived, List.any_cons]
    show _ = (⟨_, e.ends taken || _⟩ : Forwarding)
    -- Behind an event that ends the stream the rest is neither lived to see nor of any account.
    cases e.ends taken with
    | true => rw [run_of_ended rfl, if_pos rfl, List.flatMap_singleton, Bool.true_or]
    | false =>
      rw [ih rfl, if_neg Bool.false_ne_true, List.flatMap_cons, Bool.false_or, List.append_assoc]

/-- Events of no account may be left out wherever they come. -/
theorem run_filter (s : Forwarding) (events : List (StreamEvent × Bool)) :
    s.run (events.filter (!·.1.isSilent)) = s.run events := by
  induction events generalizing s with
  | nil => rfl
  | cons event rest ih =>
    obtain ⟨e, taken⟩ := event
    rw [run_cons]
    cases silent : e.isSilent with
    | true =>
      have same : s.step e taken = s := by
        cases e <;> simp_all [step, StreamEvent.isSilent]
      rw [List.filter_cons_of_neg (by simp [silent]), ih, same]
    | false =>
      rw [List.filter_cons_of_pos (by simp [silent]), run_cons, ih]

end Forwarding

/-! ## Frames -/

theorem endsInShutdown_cons {e : StreamEvent} {taken : Bool} (h : e ≠ .shutdown)
    (rest : List (StreamEvent × Bool)) :
    endsInShutdown ((e, taken) :: rest) = endsInShutdown rest := by
  cases rest with
  | nil => simp [endsInShutdown, h]
  | cons event rest => simp [endsInShutdown]

/-- **The frames of a stream:** one for each update, and a closing one if it was ended by a shutdown. -/
theorem offers_lived (events : List (StreamEvent × Bool)) :
    (lived events).flatMap (·.1.offers) =
      (updatesReceived (lived events)).map .text ++
        if endsInShutdown (lived events) then [.close] else [] := by
  induction events with
  | nil => rfl
  | cons event rest ih =>
    obtain ⟨e, taken⟩ := event
    rw [lived]
    split
    case isTrue ending =>
      cases e <;> simp_all [StreamEvent.ends, StreamEvent.offers, updatesReceived, StreamEvent.update?,
        endsInShutdown]
    case isFalse going =>
      -- Only the last event can be the shutdown, so this one leaves the closing frame to the rest.
      have other : e ≠ .shutdown := by
        rintro rfl
        exact going rfl
      rw [List.flatMap_cons, ih, endsInShutdown_cons other]
      cases e <;> simp_all [StreamEvent.ends, StreamEvent.offers, updatesReceived, StreamEvent.update?]

/-- **What a stream has done with some events.** -/
structure Forwarding.Follows (s : Forwarding) (events : List (StreamEvent × Bool)) : Prop where
  /-- A frame was offered for each update received before the end, in order, and behind them at most a
  closing one, for a shutdown that ended the stream. -/
  frames : s.offered = (updatesReceived (lived events)).map .text ++
    if endsInShutdown (lived events) then [.close] else []
  /-- The texts of the frames tell these updates, one each, in the same order. -/
  texts : List.Forall₂ RoutedUpdate.ToldIn (updatesReceived (lived events))
    (s.offered.filterMap Frame.text?)
  /-- An event of the right kind ended the stream, and nothing else did. -/
  ended : s.ended = true ↔ ∃ event ∈ events, event.1.ends event.2 = true
  /-- Once ended, the stream offers nothing more. -/
  settled : s.ended = true → ∀ more, Forwarding.opened.run (events ++ more) = s
  /-- Notices and messages of the client made no difference. -/
  silent : Forwarding.opened.run (events.filter (!·.1.isSilent)) = s

theorem Forwarding.follows (events : List (StreamEvent × Bool)) :
    (Forwarding.opened.run events).Follows events := by
  have run := Forwarding.run_of_open (s := .opened) rfl events
  have frames : (Forwarding.opened.run events).offered = _ :=
    (congrArg Forwarding.offered run).trans (offers_lived events)
  refine ⟨frames, ?texts, ?ended, ?settled, Forwarding.run_filter .opened events⟩
  case texts =>
    have sent : (Frame.text? ∘ Frame.text) = fun p => some p.sent.render := rfl
    have closing : ∀ c : Bool, (if c then [Frame.close] else []).filterMap Frame.text? = [] := by
      rintro (_ | _) <;> rfl
    rw [frames, List.filterMap_append, closing, List.append_nil, List.filterMap_map, sent,
      List.filterMap_eq_map']
    exact forall₂_map_right RoutedUpdate.toldIn_render _
  case ended => rw [run, List.any_eq_true]
  case settled =>
    intro ended more
    rw [Forwarding.run_append, Forwarding.run_of_ended ended]

/-! ## On the bus -/

/-- What was received from the bus with some events. -/
def heard (events : List (StreamEvent × Bool)) : List (Received RoutedUpdate) :=
  events.filterMap (·.1.received?)

/-- The update that the bus carries at a turn. -/
def StreamTurn.published? : StreamTurn → Option RoutedUpdate
  | .publish p => some p
  | _ => none

theorem received?_ofReceived (got : Received RoutedUpdate) :
    (StreamEvent.ofReceived got).received? = some got := by
  cases got <;> rfl

theorem heard_concat (events : List (StreamEvent × Bool)) (e : StreamEvent) (taken : Bool) :
    heard (events ++ [(e, taken)]) = heard events ++ e.received?.toList := by
  rw [heard, heard, List.filterMap_append, List.filterMap_cons, List.filterMap_nil]
  cases e.received? <;> rfl

theorem updatesReceived_eq (events : List (StreamEvent × Bool)) :
    updatesReceived events = (heard events).filterMap Received.message? := by
  rw [updatesReceived, heard, List.filterMap_filterMap]
  congr 1
  funext ⟨e, taken⟩
  cases e <;> rfl

/-- An open stream lives to see the next event, whatever it is. -/
theorem lived_concat {events : List (StreamEvent × Bool)}
    (going : (events.any fun x => x.1.ends x.2) = false) (event : StreamEvent × Bool) :
    lived (events ++ [event]) = events ++ [event] := by
  induction events with
  | nil => simp [lived]
  | cons first rest ih =>
    obtain ⟨e, taken⟩ := first
    obtain ⟨here, later⟩ := Bool.or_eq_false_iff.mp (List.any_cons ▸ going)
    rw [List.cons_append, lived, if_neg (Bool.eq_false_iff.mp here), ih later]

namespace Listening

/-- **The books of a stream on its bus:** it is in the state that its events left it in, it has taken
none after its end, and all that the bus carried since it was opened is received, counted as missed, or
still to come. -/
structure Books (before carried : List RoutedUpdate) (l : Listening) : Prop where
  state : l.forwarding = Forwarding.opened.run l.events
  seen : lived l.events = l.events
  bus : ∃ told rest, carried = told ++ rest ∧ Accounts (heard l.events) told ∧
    l.bus.Awaits l.receiver (before ++ carried) rest

variable {before carried : List RoutedUpdate} {l : Listening}

theorem books_opened (b : Bus RoutedUpdate) : (opened b).Books b.kept [] where
  state := rfl
  seen := rfl
  bus := ⟨[], [], rfl, .nil, (List.append_nil b.kept).symm ▸ b.awaits_subscribe⟩

/-- An open stream may take any event that agrees with what the bus has told. -/
theorem Books.take (h : l.Books before carried) (going : l.forwarding.ended = false) {e : StreamEvent}
    {b' : Bus RoutedUpdate} (told : ∃ told rest, carried = told ++ rest ∧
      Accounts (heard (l.events ++ [(e, taken)])) told ∧ b'.Awaits l.receiver (before ++ carried) rest) :
    ({ l with bus := b' }.take e taken).Books before carried where
  state := by
    show l.forwarding.step e taken = Forwarding.opened.run (l.events ++ [(e, taken)])
    rw [Forwarding.run_append, ← h.state, Forwarding.run_cons]
    rfl
  seen := by
    rw [h.state, Forwarding.run_of_open rfl] at going
    exact lived_concat going (e, taken)
  bus := told

/-- **The books are right after every turn.** -/
theorem Books.step (h : l.Books before carried) (turn : StreamTurn) :
    (l.step turn).Books before (carried ++ turn.published?.toList) := by
  obtain ⟨told, rest, rfl, accounts, awaits⟩ := h.bus
  cases turn with
  | publish p =>
    refine ⟨h.state, h.seen, told, rest ++ [p], List.append_assoc .., accounts, ?_⟩
    rw [← List.append_assoc]
    exact awaits.publish p
  | receive taken =>
    simp only [StreamTurn.published?, Option.toList_none, List.append_nil, Listening.step]
    split
    case isTrue => exact h
    case isFalse going =>
      -- What the bus tells accounts for the first messages that were still to come.
      obtain ⟨-, nothing⟩ | ⟨got, b', now, later, something, rfl, more, moved⟩ := awaits.receive?_cases
      · rw [nothing]
        exact h
      · rw [something]
        refine h.take (Bool.eq_false_iff.mpr going) ⟨told ++ now, later, ?_, ?_, moved⟩
        · rw [List.append_assoc]
        · rw [heard_concat, received?_ofReceived]
          exact accounts.append more
  | other e taken =>
    simp only [StreamTurn.published?, Option.toList_none, List.append_nil, Listening.step]
    split
    case isTrue => exact h
    case isFalse going =>
      obtain ⟨going, quiet⟩ := Bool.or_eq_false_iff.mp (Bool.eq_false_iff.mpr going)
      refine h.take going ⟨told, rest, rfl, ?_, awaits⟩
      have silent : e.received? = none := by simpa using quiet
      rw [heard_concat, silent, Option.toList_none, List.append_nil]
      exact accounts

/-- **The books are right after every run,** by induction on the turns. -/
theorem Books.run (h : l.Books before carried) (turns : List StreamTurn) :
    (l.run turns).Books before (carried ++ turns.filterMap StreamTurn.published?) := by
  induction turns generalizing l carried with
  | nil => rwa [List.filterMap_nil, List.append_nil]
  | cons turn rest ih =>
    have next := ih (h.step turn)
    have published : (turn :: rest).filterMap StreamTurn.published? =
        turn.published?.toList ++ rest.filterMap StreamTurn.published? := by
      rw [List.filterMap_cons]
      cases turn.published? <;> rfl
    rw [published, ← List.append_assoc]
    exact next

end Listening

/-- **What a stream has heard and passed on of what its bus carried.** -/
structure Hears (carried : List RoutedUpdate) (l : Listening) : Prop where
  /-- It was in the state that its events left it in, and took none after its end. -/
  state : l.forwarding = Forwarding.opened.run l.events
  seen : lived l.events = l.events
  /-- The updates before a certain one were received or counted as missed, in their order; the others
  are still to come, of which there are none when the bus has nothing for the stream. -/
  accounts : ∃ told rest, carried = told ++ rest ∧ Accounts (heard l.events) told ∧
    (l.bus.receive? l.receiver = none → rest = [])
  /-- No update was received twice or before an earlier one. -/
  inOrder : (updatesReceived l.events).Sublist carried
  /-- These are the updates that were passed on. -/
  texts : List.Forall₂ RoutedUpdate.ToldIn (updatesReceived l.events)
    (l.forwarding.offered.filterMap Frame.text?)

theorem Listening.Books.hears {before carried : List RoutedUpdate} {l : Listening}
    (h : l.Books before carried) : Hears carried l := by
  obtain ⟨told, rest, rfl, accounts, awaits⟩ := h.bus
  refine ⟨h.state, h.seen, ⟨told, rest, rfl, accounts, ?_⟩, ?_, ?_⟩
  · intro nothing
    obtain ⟨none, -⟩ | ⟨got, b', -, -, something, -⟩ := awaits.receive?_cases
    · exact none
    · cases nothing.symm.trans something
  · rw [updatesReceived_eq]
    exact accounts.sublist.trans (List.sublist_append_left told rest)
  · have texts := (Forwarding.follows l.events).texts
    rwa [h.seen, ← h.state] at texts

/-- **A stream forwards what it receives, in order, and ends cleanly.** Whatever events it takes, it
offers a frame for each update that it receives before its end, then a closing frame if a shutdown ended
it, and nothing else; what it receives is what its bus carries since it was opened, in the same order,
but for updates that it is told it has missed. -/
theorem Forwarding.stream_forwards_in_order :
    (∀ events, (Forwarding.opened.run events).Follows events) ∧
      ∀ (b : Bus RoutedUpdate) (turns : List StreamTurn),
        Hears (turns.filterMap StreamTurn.published?) ((Listening.opened b).run turns) :=
  ⟨Forwarding.follows, fun b turns => ((Listening.books_opened b).run turns).hears⟩

namespace SlowStream

/-- A transaction with a log and with a field that is not read. -/
def transaction : Transaction :=
  ⟨"0x9", [⟨"0xc3", ["0xd"], "", some "0xd"⟩], [("gas", .nat 21000)]⟩

/-- The update of an account with a balance. -/
def updateTo (balance : String) : RoutedUpdate :=
  ⟨"app_balance.0xa1", ⟨"0xa1", balance, [⟨"C\"", "18", "0xc3", "5"⟩], some transaction⟩⟩

/-- The text of a frame that tells it. -/
def frameOf (balance : String) : String :=
  "\x7b\"routing_key\":\"app_balance.0xa1\",\"update\":\x7b\"address\":\"0xa1\",\"balance\":\"" ++
    balance ++ "\",\"erc20token\":[\x7b\"symbol\":\"C\\\"\",\"decimals\":\"18\",\"address\":\"0xc3\"," ++
    "\"balance\":\"5\"\x7d],\"tx\":\x7b\"hash\":\"0x9\",\"logs\":[\x7b\"address\":\"0xc3\"," ++
    "\"topics\":[\"0xd\"],\"data\":\"\",\"signature\":\"0xd\"\x7d],\"gas\":21000\x7d\x7d\x7d"

/-- A bus that keeps one update, a stream that comes late for the first of two, and a shutdown before a
third. -/
def turns : List StreamTurn :=
  [.publish (updateTo "1"), .publish (updateTo "2"), .receive true, .other .clientMessage true,
    .receive true, .other .shutdown true, .publish (updateTo "3"), .receive true]

/-- The stream after these turns. -/
def stream : Listening := (Listening.opened ⟨1, [], 0, []⟩).run turns

/-- **A slow stream misses an update, passes on the next one and is closed.** -/
theorem later_update_is_passed_on :
    stream.events = [(.lagged 1, true), (.clientMessage, true), (.update (updateTo "2"), true),
        (.shutdown, true)] ∧
      stream.forwarding.offered = [.text (updateTo "2"), .close] ∧
      stream.forwarding.offered.filterMap Frame.text? = [frameOf "2"] ∧
      (updateTo "2").ToldIn (frameOf "2") ∧
      stream.forwarding.Follows stream.events ∧
      Hears [updateTo "1", updateTo "2", updateTo "3"] stream := by
  have events : stream.events = [(.lagged 1, true), (.clientMessage, true),
      (.update (updateTo "2"), true), (.shutdown, true)] := by
    decide +kernel
  obtain ⟨law, onBus⟩ := Forwarding.stream_forwards_in_order
  have hears : Hears [updateTo "1", updateTo "2", updateTo "3"] stream := onBus ⟨1, [], 0, []⟩ turns
  have follows : stream.forwarding.Follows stream.events := hears.state ▸ law stream.events
  have frames : stream.forwarding.offered = [.text (updateTo "2"), .close] := by
    rw [follows.frames, events]
    decide +kernel
  have texts : stream.forwarding.offered.filterMap Frame.text? = [frameOf "2"] := by
    rw [frames]
    decide +kernel
  have received : updatesReceived stream.events = [updateTo "2"] := by
    rw [events]
    decide +kernel
  have told := hears.texts
  rw [texts, received] at told
  exact ⟨events, frames, texts, (List.forall₂_cons.mp told).1, follows, hears⟩

end SlowStream

end TransferLedger
