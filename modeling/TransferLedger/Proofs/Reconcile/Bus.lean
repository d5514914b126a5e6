/-
# TransferLedger.Proofs.Reconcile.Bus -- a receiver gets what the bus carries, in order

What a receiver has still to get are the latest messages of all that the bus has carried. It gets them
one after the other, but for those that the bus no longer keeps, which it is told the number of. So at
any time all that the bus has carried since the receiver joined is received, counted as missed, or
still to come, in this order. A message that is published reaches every receiver: one that has got all
before it gets this message next, and nothing after it.
-/

import Mathlib.Data.List.Infix
import TransferLedger.Reconcile.Bus

namespace TransferLedger

/-- **What was received accounts for what was carried:** each message was received or is among those
counted as missed, all in their order. -/
inductive Accounts {α : Type} : List (Received α) → List α → Prop
  | nil : Accounts [] []
  | message (m : α) {got : List (Received α)} {carried : List α} (h : Accounts got carried) :
      Accounts (.message m :: got) (m :: carried)
  | lagged (missed : List α) {got : List (Received α)} {carried : List α} (h : Accounts got carried) :
      Accounts (.lagged missed.length :: got) (missed ++ carried)

variable {α : Type}

theorem Accounts.append {got got' : List (Received α)} {carried carried' : List α}
    (h : Accounts got carried) (h' : Accounts got' carried') :
    Accounts (got ++ got') (carried ++ carried') := by
  induction h with
  | nil => exact h'
  | message m _ ih => exact .message m ih
  | lagged missed _ ih =>
    rw [List.append_assoc]
    exact .lagged missed ih

/-- A message that was received. -/
def Received.message? : Received α → Option α
  | .message m => some m
  | .lagged _ => none

/-- No message is received twice or before an earlier one. -/
theorem Accounts.sublist {got : List (Received α)} {carried : List α} (h : Accounts got carried) :
    (got.filterMap Received.message?).Sublist carried := by
  induction h with
  | nil => exact .slnil
  | message m _ ih => exact ih.cons_cons m
  | lagged missed _ ih => exact ih.trans (List.sublist_append_right missed _)

namespace Bus

variable {b : Bus α} {receiver : Nat} {all rest : List α}

theorem receiverCount_eq_zero_iff : b.receiverCount = 0 ↔ ∀ place, some place ∉ b.receivers := by
  rw [receiverCount, List.countP_eq_zero]
  constructor
  · exact fun none place mem => none _ mem rfl
  · rintro none (_ | place) mem isSome
    · cases isSome
    · exact none place mem

theorem publish_of_heard {place : Nat} (h : some place ∈ b.receivers) (m : α) :
    b.publish m = { b with
      kept := (b.kept ++ [m]).drop ((b.kept ++ [m]).length - b.capacity), total := b.total + 1 } :=
  if_neg fun none => receiverCount_eq_zero_iff.mp none place h

theorem length_kept_publish {place : Nat} (h : some place ∈ b.receivers) (m : α) :
    (b.publish m).kept.length = min (b.kept.length + 1) b.capacity := by
  rw [publish_of_heard h]
  show ((b.kept ++ [m]).drop _).length = _
  rw [List.length_drop, List.length_append, List.length_singleton]
  omega

/-- **What a receiver has still to get:** the last of all messages, as many as it is behind. -/
structure Awaits (b : Bus α) (receiver : Nat) (all rest : List α) : Prop where
  kept : b.kept <:+ all
  latest : rest <:+ all
  place : ∃ place, b.receivers[receiver]? = some (some place) ∧ place + rest.length = b.total

/-- A receiver that joins has nothing to get. -/
theorem awaits_subscribe (b : Bus α) : b.subscribe.2.Awaits b.subscribe.1 b.kept [] where
  kept := List.suffix_refl b.kept
  latest := List.nil_suffix
  place := ⟨b.total, by simp [subscribe], rfl⟩

/-- A bus that has a receiver carries what is published. -/
theorem Awaits.publish (h : b.Awaits receiver all rest) (m : α) :
    (b.publish m).Awaits receiver (all ++ [m]) (rest ++ [m]) := by
  obtain ⟨place, own, behind⟩ := h.place
  have longer : ∀ {l : List α}, l <:+ all → l ++ [m] <:+ all ++ [m] := by
    rintro l ⟨front, rfl⟩
    exact ⟨front, (List.append_assoc ..).symm⟩
  -- The receiver is on the bus itself, so no message is lost for want of one.
  rw [publish_of_heard (List.mem_of_getElem? own)]
  exact {
    kept := (List.drop_suffix _ _).trans (longer h.kept)
    latest := longer h.latest
    place := ⟨place, own, by rw [← behind, List.length_append]; rfl⟩ }

/-- What is pending for a receiver are the messages that it awaits, of which the bus may have lost the
first. -/
theorem Awaits.pending (h : b.Awaits receiver all rest) {place : Nat}
    (behind : place + rest.length = b.total) :
    b.pending place = (rest.length - b.kept.length,
      if rest.length ≤ b.kept.length then rest else b.kept) := by
  have unread : b.total - place = rest.length := by omega
  rw [Bus.pending, unread]
  split
  case isTrue few =>
    have last : rest <:+ b.kept := List.suffix_of_suffix_length_le h.latest h.kept few
    rw [← List.suffix_iff_eq_drop.mp last]
  case isFalse many =>
    rw [Nat.sub_eq_zero_of_le (Nat.le_of_not_le many), List.drop_zero]

/-- A receiver that has got some of the messages awaits the others. -/
theorem Awaits.moveTo {told : List α} (h : b.Awaits receiver all (told ++ rest)) {place : Nat}
    (own : b.receivers[receiver]? = some (some place))
    (behind : place + (told ++ rest).length = b.total) :
    (b.moveTo receiver (place + told.length)).Awaits receiver all rest where
  kept := h.kept
  latest := (List.suffix_append told rest).trans h.latest
  place := by
    refine ⟨place + told.length, ?_, ?_⟩
    · have inside : receiver < b.receivers.length := (List.getElem?_eq_some_iff.mp own).1
      simp [Bus.moveTo, inside]
    · rw [List.length_append] at behind
      show _ = b.total
      omega

/-- **A receiver gets the next message that it awaits,** or is told how many it has missed. It gets
nothing only if it awaits nothing. -/
theorem Awaits.receive?_cases (h : b.Awaits receiver all rest) :
    (rest = [] ∧ b.receive? receiver = none) ∨
      ∃ got b' told rest', b.receive? receiver = some (got, b') ∧ rest = told ++ rest' ∧
        Accounts [got] told ∧ b'.Awaits receiver all rest' := by
  obtain ⟨place, own, behind⟩ := h.place
  simp only [receive?, own, Option.join_some, h.pending behind]
  by_cases few : rest.length ≤ b.kept.length
  · rw [Nat.sub_eq_zero_of_le few, if_pos few]
    cases rest with
    | nil => exact .inl ⟨rfl, rfl⟩
    | cons m rest =>
      have moved : (b.moveTo receiver (place + [m].length)).Awaits receiver all rest :=
        h.moveTo own behind
      exact .inr ⟨.message m, b.moveTo receiver (place + 1), [m], rest, rfl, rfl, .message m .nil, moved⟩
  · -- The bus has lost the first messages, all but as many as it keeps.
    obtain ⟨lost, many⟩ := Nat.exists_eq_succ_of_ne_zero (Nat.sub_ne_zero_of_lt (Nat.lt_of_not_le few))
    rw [many, if_neg few]
    have short : lost + 1 ≤ rest.length := by omega
    have count : (rest.take (lost + 1)).length = lost + 1 := List.length_take_of_le short
    have cut : rest = rest.take (lost + 1) ++ rest.drop (lost + 1) := (List.take_append_drop ..).symm
    have told := Accounts.lagged (rest.take (lost + 1)) .nil
    have moved := Awaits.moveTo (cut ▸ h) own (cut ▸ behind)
    rw [count, List.append_nil] at told
    rw [count] at moved
    exact .inr ⟨.lagged (lost + 1), b.moveTo receiver (place + (lost + 1)), _, _, rfl, cut, told, moved⟩

/-! ## One message -/

/-- **A bus that has carried one message more.** With a receiver the message stands behind all that was
kept, of which no more is forgotten than the capacity asks; without any it is lost. -/
structure Carried (b b' : Bus α) (m : α) : Prop where
  capacity : b'.capacity = b.capacity
  /-- No receiver is moved by it. -/
  receivers : b'.receivers = b.receivers
  heard : (∃ place, some place ∈ b.receivers) → b'.total = b.total + 1 ∧
    b'.kept.length = min (b.kept.length + 1) b.capacity ∧
    ∃ forgotten, b.kept ++ [m] = forgotten ++ b'.kept
  /-- A receiver that has got all before it gets the message and nothing more. -/
  received : ∀ receiver, b.receivers[receiver]? = some (some b.total) → 0 < b.capacity →
    ∃ b'', b'.receive? receiver = some (.message m, b'') ∧ b''.receive? receiver = none
  unheard : (∀ place, some place ∉ b.receivers) → b' = b

/-- A receiver that awaits nothing gets nothing. -/
theorem Awaits.receive?_nil (h : b.Awaits receiver all []) : b.receive? receiver = none := by
  obtain ⟨place, own, behind⟩ := h.place
  have pending : b.pending place = (0, []) := by
    rw [h.pending behind, List.length_nil, Nat.zero_sub, if_pos (Nat.zero_le _)]
  simp only [receive?, own, Option.join_some, pending]

/-- A receiver that awaits one message gets it, if the bus keeps any, and then nothing. -/
theorem Awaits.receive?_singleton {m : α} (h : b.Awaits receiver all [m])
    (kept : 1 ≤ b.kept.length) :
    ∃ b', b.receive? receiver = some (.message m, b') ∧ b'.receive? receiver = none := by
  obtain ⟨place, own, behind⟩ := h.place
  have pending : b.pending place = (0, [m]) := by
    rw [h.pending behind, List.length_singleton, Nat.sub_eq_zero_of_le kept, if_pos kept]
  have one : b.Awaits receiver all ([m] ++ []) := h
  have moved : (b.moveTo receiver (place + 1)).Awaits receiver all [] := one.moveTo own behind
  refine ⟨b.moveTo receiver (place + 1), ?_, moved.receive?_nil⟩
  simp only [receive?, own, Option.join_some, pending]

/-- **Publishing carries the message.** -/
theorem carried_publish (b : Bus α) (m : α) : b.Carried (b.publish m) m where
  capacity := by rw [publish]; split <;> rfl
  receivers := by rw [publish]; split <;> rfl
  heard := by
    rintro ⟨place, mem⟩
    have count := length_kept_publish mem m
    rw [publish_of_heard mem] at count ⊢
    exact ⟨rfl, count, _, (List.take_append_drop _ _).symm⟩
  received := by
    intro receiver own room
    have caughtUp : b.Awaits receiver b.kept [] :=
      ⟨List.suffix_refl b.kept, List.nil_suffix, b.total, own, rfl⟩
    refine (caughtUp.publish m).receive?_singleton ?_
    rw [length_kept_publish (List.mem_of_getElem? own)]
    omega
  unheard none := if_pos (receiverCount_eq_zero_iff.mpr none)

/-! ## Draining -/

theorem pending_succ {place : Nat} {m : α} {ms : List α} (h : b.pending place = (0, m :: ms)) :
    b.pending (place + 1) = (0, ms) := by
  obtain ⟨few, messages⟩ := Prod.mk.inj h
  have count := congrArg List.length messages
  rw [List.length_drop, List.length_cons] at count
  have next : b.kept.length - (b.total - (place + 1)) = b.kept.length - (b.total - place) + 1 := by
    omega
  rw [pending, next, ← List.tail_drop, messages]
  exact Prod.ext (by show b.total - (place + 1) - b.kept.length = 0; omega) rfl

/-- Behind the messages that it has missed a receiver finds all that are kept. -/
theorem pending_behind_missed {place missed : Nat} {ms : List α}
    (h : b.pending place = (missed + 1, ms)) : b.pending (place + (missed + 1)) = (0, ms) := by
  obtain ⟨many, rfl⟩ := Prod.mk.inj h
  have before : b.kept.length - (b.total - place) = 0 := by omega
  have behind : b.total - (place + (missed + 1)) = b.kept.length := by omega
  rw [pending, behind, before, Nat.sub_self]

theorem place_moveTo {old : Nat} (own : b.receivers[receiver]?.join = some old) (place : Nat) :
    (b.moveTo receiver place).receivers[receiver]?.join = some place := by
  have found : b.receivers[receiver]? = some (some old) := Option.join_eq_some_iff.mp own
  have inside : receiver < b.receivers.length := (List.getElem?_eq_some_iff.mp found).1
  simp [moveTo, inside]

/-- **All that a receiver gets is what it gets one after the other.** -/
theorem drain_of_receive? {got : Received α} {b' : Bus α} (h : b.receive? receiver = some (got, b')) :
    ∃ more, (b.drain receiver).1 = some (got :: more) ∧ (b'.drain receiver).1 = some more := by
  unfold receive? at h
  split at h
  case h_1 => cases h
  case h_2 place own =>
    -- nothing is pending, or a message is the first one, or some were missed before it
    split at h
    case h_1 => cases h
    case h_2 m ms pending =>
      cases h
      have rest : (b.moveTo receiver (place + 1)).pending (place + 1) = (0, ms) := pending_succ pending
      refine ⟨ms.map .message, ?_, ?_⟩
      · simp [drain, own, pending]
      · simp [drain, place_moveTo own, rest]
    case h_3 missed ms none some pending =>
      cases h
      cases missed with
      | zero =>
        cases ms with
        | nil => exact absurd rfl (none rfl)
        | cons m ms => exact absurd rfl (some m ms rfl)
      | succ missed =>
        have rest : (b.moveTo receiver (place + (missed + 1))).pending (place + (missed + 1)) =
          (0, ms) := pending_behind_missed pending
        refine ⟨ms.map .message, ?_, ?_⟩
        · simp [drain, own, pending]
        · simp [drain, place_moveTo own, rest]

end Bus

end TransferLedger
