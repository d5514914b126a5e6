/-
# TransferLedger.Proofs.Chain.Retry -- when a repeated request stops

A request is repeated until an attempt settles it or the policy allows no more repetitions. An attempt
settles a request if it succeeds, or if it fails in a way that asking again cannot mend: the endpoint
or the request is at fault, or the contract refused. `MayPass` says by the numbers and words of the
protocol which failures are not of that kind, and `firstSettled` where a sequence of outcomes has its
first settled one. How many attempts are made and what comes of them follows from these two.
-/

import Mathlib.Data.ENat.Lattice
import TransferLedger.Chain.Retry
import TransferLedger.Proofs.Fallible

namespace TransferLedger

open TransferLedger.Text

/-! ## Failures that may pass -/

theorem occursIn_iff {word text : List Char} : occursIn word text = true ↔ word <:+: text := by
  induction text with
  | nil => rw [occursIn, List.isEmpty_iff, List.infix_nil]
  | cons c cs ih =>
    have first : (stripPrefix? word (c :: cs)).isSome = true ↔ word <+: c :: cs := by
      rw [Option.isSome_iff_exists]
      exact exists_congr fun rest => stripPrefix?_eq_some_iff.trans eq_comm
    rw [occursIn, Bool.or_eq_true, first, ih, List.infix_cons_iff]

/-- **A message that tells of a contract that refused:** one of these words stands in it, in any letter
case. -/
def TellsOfRefusal (message : String) : Prop :=
  ∃ word ∈ ["revert", "out of gas"], word.toList <:+: (lower message).toList

theorem tellsOfExecution_iff {message : String} :
    tellsOfExecution message = true ↔ TellsOfRefusal message := by
  simp [tellsOfExecution, TellsOfRefusal, occursIn_iff]

namespace RpcFailure

/-- **Failures that may pass.** The transport and what the node answers may be better next time; a
status may that blames the node or asks to slow down; and an error that the node reports may unless it
blames the request or says that the contract refused. -/
def MayPass : RpcFailure → Prop
  | invalidEndpoint _ => False
  | transport _ => True
  | invalidResponse _ => True
  | http status => status = 429 ∨ ¬(400 ≤ status ∧ status < 500)
  | rpc code message =>
    code.toInt = -32005 ∨
      ¬(-32602 ≤ code.toInt ∧ code.toInt ≤ -32600) ∧ code.toInt ≠ 3 ∧
        ¬(-32099 ≤ code.toInt ∧ code.toInt ≤ -32000 ∧ TellsOfRefusal message)

theorem isTransient_iff {e : RpcFailure} : e.isTransient = true ↔ e.MayPass := by
  cases e with
  | invalidEndpoint endpoint => simp [isTransient, category, MayPass]
  | transport reason => simp [isTransient, category, MayPass]
  | invalidResponse reason => simp [isTransient, category, MayPass]
  | http status =>
    simp only [isTransient, category, MayPass]
    by_cases slow : status = 429
    · simp [slow]
    · by_cases blamed : 400 ≤ status ∧ status < 500
      · simp [slow, blamed]
      · simp [slow, blamed]
  | rpc code message =>
    simp only [isTransient, category, codeCategory, MayPass, ← tellsOfExecution_iff]
    -- in the order of the tests: a request that is at fault, a limit, a revert, a refusal
    by_cases request : -32602 ≤ code.toInt ∧ code.toInt ≤ -32600
    · have other : code.toInt ≠ -32005 := by omega
      simp [request, other]
    · by_cases slow : code.toInt = -32005
      · simp [slow]
      · by_cases reverted : code.toInt = 3
        · simp [reverted]
        · by_cases refused :
            -32099 ≤ code.toInt ∧ code.toInt ≤ -32000 ∧ tellsOfExecution message = true
          · simp [request, slow, reverted, refused]
          · simp [request, slow, reverted, refused]

end RpcFailure

/-! ## Sequences of outcomes -/

section Outcomes

variable {α : Type} {outcomes : Nat → Except RpcFailure α}

/-- **Whether an outcome settles a request:** it is a success, or a failure that will not pass. -/
def Settles : Except RpcFailure α → Prop
  | .ok _ => True
  | .error e => ¬e.MayPass

/-- An outcome that settles nothing is a failure of the node or its network. -/
theorem exists_of_not_settles {r : Except RpcFailure α} (h : ¬Settles r) :
    ∃ e, r = .error e ∧ e.MayPass ∧ e.category ≠ .client ∧ e.category ≠ .execution := by
  cases r with
  | ok a => exact absurd trivial h
  | error e =>
    have passes : e.MayPass := not_not.mp h
    have transient := RpcFailure.isTransient_iff.mpr passes
    unfold RpcFailure.isTransient at transient
    refine ⟨e, rfl, passes, ?_, ?_⟩ <;> intro blamed <;> simp [blamed] at transient

/-- **The place of the first outcome that settles the request,** counted from one; it is infinite if
there is none. -/
noncomputable def firstSettled (outcomes : Nat → Except RpcFailure α) : ENat :=
  ⨅ (n : Nat) (_ : Settles (outcomes n)), ((n + 1 : Nat) : ENat)

/-- No outcome settles the request before the first one that does. -/
theorem le_firstSettled {n : Nat} (before : ∀ i < n, ¬Settles (outcomes i)) :
    ((n + 1 : Nat) : ENat) ≤ firstSettled outcomes := by
  refine le_iInf₂ fun i settled => ?_
  have late : n ≤ i := Nat.le_of_not_lt fun less => before i less settled
  exact_mod_cast Nat.succ_le_succ late

theorem firstSettled_eq {n : Nat} (before : ∀ i < n, ¬Settles (outcomes i))
    (settled : Settles (outcomes n)) : firstSettled outcomes = ((n + 1 : Nat) : ENat) :=
  le_antisymm (iInf₂_le n settled) (le_firstSettled before)

end Outcomes

/-! ## Attempts -/

namespace RetryPolicy

variable {α : Type} {policy : RetryPolicy} {outcomes : Nat → Except RpcFailure α}

/-- Attempts that end in given ways. Their state counts how many were made. -/
def scripted (outcomes : Nat → Except RpcFailure α) (made : Nat) : Except RpcFailure α × Nat :=
  (outcomes made, made + 1)

/-- **The course of a request whose attempts end in given ways.** -/
def course (policy : RetryPolicy) (outcomes : Nat → Except RpcFailure α) : Retried Nat α :=
  policy.run (scripted outcomes) 0

/-- The wait that follows so many others. -/
def wait? (policy : RetryPolicy) : Nat → Except WaitFault Nat
  | 0 => .ok policy.initialWait
  | k + 1 => policy.wait? k >>= policy.nextWait

/-- **A policy whose due waits can all be computed:** the first one, and the following one at each
repetition. -/
def Timed (policy : RetryPolicy) : Prop :=
  ∀ k ≤ policy.maxRetries.toNat, (policy.wait? k).isOk = true

theorem timed_once : once.Timed := fun _ due => by
  rw [Nat.le_zero.mp due]
  rfl

theorem timed_standard : standard.Timed := by
  have waits : ∀ k < 3, (standard.wait? k).isOk = true := by decide +kernel
  exact fun k due => waits k (Nat.lt_succ_of_le due)

/-! ### One attempt -/

section Step

variable {retries made ns : Nat}

/-- An attempt that settles the request, or after which none is left, is the last one. -/
theorem attempts_of_last (last : Settles (outcomes made) ∨ retries = 0) :
    policy.attempts (scripted outcomes) retries ns made =
      ⟨[], made + 1, (outcomes made).mapError .failed⟩ := by
  unfold attempts scripted
  cases ended : outcomes made with
  | ok a => rfl
  | error e =>
    cases transient : e.isTransient with
    | false => simp [transient]
    | true =>
      rcases last with settled | rfl
      · rw [ended] at settled
        exact absurd (RpcFailure.isTransient_iff.mp transient) settled
      · simp [transient]

/-- After a failure that may pass comes a wait, and then the next attempt if the wait after that can be
computed. -/
theorem attempts_of_passed (passed : ¬Settles (outcomes made)) :
    policy.attempts (scripted outcomes) (retries + 1) ns made =
      match policy.nextWait ns with
      | .error fault => ⟨[ns], made + 1, .error (.wait fault)⟩
      | .ok next =>
        let rest := policy.attempts (scripted outcomes) retries next (made + 1)
        { rest with waits := ns :: rest.waits } := by
  obtain ⟨e, ended, passes, -⟩ := exists_of_not_settles passed
  have transient := RpcFailure.isTransient_iff.mpr passes
  rw [attempts, scripted, ended]
  cases policy.nextWait ns with
  | error fault => simp [transient]
  | ok following => simp [transient]

end Step

/-! ### All attempts -/

/-- **How attempts end** of which `start` is the first and `limit` the last that is allowed: those
before the last one made failed in a way that may pass. The last one settles the request or is the last
allowed, and what came of it is the outcome; or else a wait cannot be computed. -/
structure Ends (policy : RetryPolicy) (outcomes : Nat → Except RpcFailure α) (start limit : Nat)
    (r : Retried Nat α) (last : Nat) : Prop where
  made : r.state = last + 1
  within : start ≤ last ∧ last ≤ limit
  passed : ∀ i, start ≤ i → i < last → ¬Settles (outcomes i)
  outcome : (r.outcome = (outcomes last).mapError .failed ∧ (Settles (outcomes last) ∨ last = limit)) ∨
    last < limit ∧ ∃ fault, r.outcome = .error (.wait fault) ∧ policy.wait? (last + 1) = .error fault

theorem ends_of_last {retries start ns : Nat} (last : Settles (outcomes start) ∨ retries = 0) :
    Ends policy outcomes start (start + retries)
      (policy.attempts (scripted outcomes) retries ns start) start where
  made := by rw [attempts_of_last last]
  within := ⟨Nat.le_refl start, Nat.le_add_right start retries⟩
  passed := fun i late early => absurd late (Nat.not_le.mpr early)
  outcome := by
    rw [attempts_of_last last]
    exact .inl ⟨rfl, last.imp_right fun none => by rw [none, Nat.add_zero]⟩

/-- **Attempts end,** by induction on the repetitions that are left. -/
theorem exists_ends {retries start ns : Nat} (waited : policy.wait? start = .ok ns) :
    ∃ last, Ends policy outcomes start (start + retries)
      (policy.attempts (scripted outcomes) retries ns start) last := by
  induction retries generalizing start ns with
  | zero => exact ⟨start, ends_of_last (.inr rfl)⟩
  | succ retries ih =>
    by_cases settled : Settles (outcomes start)
    · exact ⟨start, ends_of_last (.inl settled)⟩
    have following : policy.wait? (start + 1) = policy.nextWait ns := by
      rw [wait?, waited]
      rfl
    rw [attempts_of_passed settled]
    cases next : policy.nextWait ns with
    | error fault =>
      -- Another attempt is allowed, but it is not known when.
      refine ⟨start, rfl, ⟨Nat.le_refl start, by omega⟩, fun i late early => ?_, .inr ?_⟩
      · exact absurd late (Nat.not_le.mpr early)
      · exact ⟨by omega, fault, rfl, following.trans next⟩
    | ok ns' =>
      obtain ⟨last, ended⟩ := ih (following.trans next)
      have moved : start + 1 + retries = start + (retries + 1) := by omega
      rw [moved] at ended
      refine ⟨last, ended.made, ⟨by have := ended.within; omega, ended.within.2⟩, ?_, ended.outcome⟩
      -- The attempt that was just made is the only one in front of the others.
      intro i late early
      by_cases first : i = start
      · rw [first]
        exact settled
      · exact ended.passed i (by omega) early

/-- The whole course of a request ends in one of these ways. -/
theorem exists_ends_course (policy : RetryPolicy) (outcomes : Nat → Except RpcFailure α) :
    ∃ last, Ends policy outcomes 0 policy.maxRetries.toNat (policy.course outcomes) last := by
  have first : policy.wait? 0 = .ok policy.initialWait := rfl
  obtain ⟨last, ended⟩ :
      ∃ last, Ends policy outcomes 0 (0 + policy.maxRetries.toNat) (policy.course outcomes) last :=
    exists_ends first
  rw [Nat.zero_add] at ended
  exact ⟨last, ended⟩

/-- If the last attempt settles the request or is the last allowed, then there are as many attempts as
it takes to the first outcome that settles it, or as many as are allowed. -/
theorem Ends.count {limit last : Nat} {r : Retried Nat α} (ended : Ends policy outcomes 0 limit r last)
    (stopped : Settles (outcomes last) ∨ last = limit) :
    (r.state : ENat) = min (firstSettled outcomes) ((limit + 1 : Nat) : ENat) := by
  have before : ∀ i < last, ¬Settles (outcomes i) := fun i => ended.passed i (Nat.zero_le i)
  rw [ended.made]
  rcases stopped with settled | rfl
  · rw [firstSettled_eq before settled, min_eq_left]
    exact_mod_cast Nat.succ_le_succ ended.within.2
  · exact (min_eq_right (le_firstSettled before)).symm

/-- **When a repeated request stops.** For every sequence of outcomes there are as many attempts as it
takes to the first one that settles the request, but one more than there are repetitions at most, and
what comes of them is the outcome of the last attempt. There are fewer only if a wait that is then due
cannot be computed. In either case every attempt before the last one failed in a way that may pass, so
none is made after a success or a failure for which the endpoint, the request or the contract is to
blame. -/
theorem attempts_stop {policy : RetryPolicy} (counted : policy.maxRetries.toNat < 2 ^ 32 - 1)
    (outcomes : Nat → Except RpcFailure α) :
    (policy.course outcomes).state < 2 ^ 32 ∧
      (∀ i, i + 1 < (policy.course outcomes).state → ∃ e, outcomes i = .error e ∧ e.MayPass ∧
        e.category ≠ .client ∧ e.category ≠ .execution) ∧
      (((policy.course outcomes).state : ENat) =
          min (firstSettled outcomes) ((policy.maxRetries.toNat + 1 : Nat) : ENat) ∧
        (∃ last, (policy.course outcomes).state = last + 1 ∧
          (policy.course outcomes).outcome = (outcomes last).mapError .failed) ∨
      (policy.course outcomes).state ≤ policy.maxRetries.toNat ∧
        ∃ fault, (policy.course outcomes).outcome = .error (.wait fault) ∧
          policy.wait? (policy.course outcomes).state = .error fault) := by
  obtain ⟨last, ended⟩ := exists_ends_course policy outcomes
  have made : (policy.course outcomes).state = last + 1 := ended.made
  have within := ended.within.2
  refine ⟨by omega, fun i earlier => ?_, ?_⟩
  · exact exists_of_not_settles (ended.passed i (Nat.zero_le i) (by omega))
  · obtain ⟨outcome, stopped⟩ | ⟨early, unknown⟩ := ended.outcome
    · exact .inl ⟨ended.count stopped, last, made, outcome⟩
    · rw [made]
      exact .inr ⟨early, unknown⟩

/-- **A request whose due waits can all be computed** is always repeated until an outcome settles it or
no repetition is left. -/
theorem course_of_timed (timed : policy.Timed) (outcomes : Nat → Except RpcFailure α) :
    ((policy.course outcomes).state : ENat) =
        min (firstSettled outcomes) ((policy.maxRetries.toNat + 1 : Nat) : ENat) ∧
      ∃ last, (policy.course outcomes).state = last + 1 ∧
        (policy.course outcomes).outcome = (outcomes last).mapError .failed := by
  obtain ⟨last, ended⟩ := exists_ends_course policy outcomes
  obtain ⟨outcome, stopped⟩ | ⟨early, fault, -, unknown⟩ := ended.outcome
  · exact ⟨ended.count stopped, last, ended.made, outcome⟩
  · have known := timed (last + 1) early
    rw [unknown] at known
    cases known

end RetryPolicy

namespace BusyNode

/-- A node that is busy for two attempts, answers the third, and would refuse the fourth. -/
def outcomes : Nat → Except RpcFailure Nat
  | 0 => .error (.http 429)
  | 1 => .error (.rpc (-32000) "header not found")
  | 2 => .ok 7
  | _ => .error (.rpc 3 "execution reverted")

theorem third_attempt_answers :
    RetryPolicy.standard.maxRetries.toNat < 2 ^ 32 - 1 ∧
      firstSettled outcomes = ((3 : Nat) : ENat) ∧
      (RetryPolicy.standard.course outcomes).state = 3 ∧
      (RetryPolicy.standard.course outcomes).outcome = .ok 7 := by
  have counted : RetryPolicy.standard.maxRetries.toNat < 2 ^ 32 - 1 := by decide
  have busy : ¬Settles (outcomes 0) := not_not.mpr (RpcFailure.isTransient_iff.mp (by decide))
  have missing : ¬Settles (outcomes 1) :=
    not_not.mpr (RpcFailure.isTransient_iff.mp (by decide +kernel))
  have first : firstSettled outcomes = ((3 : Nat) : ENat) := by
    refine firstSettled_eq (n := 2) ?_ trivial
    rintro (_ | _ | i) early
    · exact busy
    · exact missing
    · omega
  refine ⟨counted, first, ?_⟩
  obtain ⟨-, -, ⟨count, last, made, outcome⟩ | ⟨early, fault, -, unknown⟩⟩ :=
    RetryPolicy.attempts_stop counted outcomes
  · have three : (RetryPolicy.standard.course outcomes).state = 3 := by
      rw [first, show RetryPolicy.standard.maxRetries.toNat + 1 = 3 from rfl, min_self] at count
      exact_mod_cast count
    obtain rfl : last = 2 := by omega
    exact ⟨three, outcome⟩
  · have known := RetryPolicy.timed_standard _ early
    rw [unknown] at known
    cases known

end BusyNode

end TransferLedger
