/-
# TransferLedger.Chain.Retry -- asking again

A policy says how often a failed request is repeated and how long to wait before each repetition.
The wait grows by a factor up to a bound. Only transient failures are repeated: a success or any
other failure ends the attempts at once. Waits are kept in nanoseconds; the factor is a binary
fraction, and its product with a wait is rounded to the nearest nanosecond. They are measured by a
clock that ticks once a millisecond: a wait lasts until the first tick that is not before its end,
and never longer than thirty years.
-/

import TransferLedger.Chain.Failure
import TransferLedger.Number.Binary64

namespace TransferLedger

open TransferLedger.Number

/-! ## The clock -/

namespace Clock

/-- Nanoseconds in a tick. -/
def tick : Nat := 1000000

/-- The longest sleep in ticks: thirty years of 365 days. -/
def longestSleep : Nat := 30 * 365 * 86400 * 1000

/-- The tick at which a sleep ends. -/
def wake (now ticks : Nat) : Nat := now + min ticks longestSleep

/-- The ticks that a number of nanoseconds takes. -/
def ticksOf (ns : Nat) : Nat := (ns + tick - 1) / tick

theorem le_wake (now ticks : Nat) : now ≤ wake now ticks := Nat.le_add_right _ _

end Clock

/-! ## Policies -/

/-- **A policy of repetition.** -/
structure RetryPolicy where
  maxRetries : UInt32
  /-- The first wait, in nanoseconds. -/
  initialWait : Nat
  /-- The bound on all later waits, in nanoseconds. -/
  longestWait : Nat
  /-- How a wait grows. -/
  factor : Binary64
deriving DecidableEq, Repr

/-- A wait that cannot be computed. -/
inductive WaitFault where
  | negative
  | endless
deriving DecidableEq, Repr

/-- The wording of the fault. -/
def WaitFault.message : WaitFault → String
  | negative => "cannot convert float seconds to Duration: value is negative"
  | endless =>
    "cannot convert float seconds to Duration: value is either too big or NaN"

namespace RetryPolicy

/-- Nanoseconds in a second. -/
def second : Nat := 1000000000

/-- Never repeat. -/
def once : RetryPolicy := ⟨0, 0, 0, ⟨(1.0 : Float).toBits⟩⟩

/-- Repeat twice, after 200 milliseconds and then twice as long. -/
def standard : RetryPolicy := ⟨2, 200 * Clock.tick, 2 * second, ⟨(2.0 : Float).toBits⟩⟩

/-- A wait in seconds. -/
def toSeconds (ns : Nat) : Float :=
  (ns / second).toFloat + (ns % second).toFloat / second.toFloat

/-- The greatest wait: the seconds of a 64-bit count. -/
def waitBound : Nat := 2 ^ 64 * second

/-- A wait from seconds, rounded to the nearest nanosecond, an exact half to the even one. -/
def ofSeconds (seconds : Float) : Except WaitFault Nat :=
  if seconds < 0 then .error .negative
  else if seconds.isNaN || seconds.isInf then .error .endless
  else
    let (m, q) := Binary64.parts ⟨seconds.toBits⟩
    let numerator := m * second * 2 ^ q.toNat
    let denominator := 2 ^ (-q).toNat
    let floor := numerator / denominator
    let rest := 2 * (numerator % denominator)
    let ns := if rest < denominator then floor
      else if denominator < rest then floor + 1
      else floor + floor % 2
    if ns < waitBound then .ok ns else .error .endless

/-- The wait after a given one. -/
def nextWait (policy : RetryPolicy) (ns : Nat) : Except WaitFault Nat :=
  let grown := toSeconds ns * policy.factor.toFloat
  let bound := toSeconds policy.longestWait
  ofSeconds (if grown.isNaN || bound < grown then bound else grown)

end RetryPolicy

/-- Why a repeated request has no answer. -/
inductive RetryFailure where
  /-- The last attempt failed. -/
  | failed (failure : RpcFailure)
  /-- The next wait cannot be computed. -/
  | wait (fault : WaitFault)
deriving DecidableEq, Repr

/-- **The course of a repeated request:** the waits between its attempts, the state after the last
one, and what came of it. -/
structure Retried (σ α : Type) where
  waits : List Nat
  state : σ
  outcome : Except RetryFailure α

namespace RetryPolicy

/-- Attempts with so many repetitions left, the next of them after `ns`. -/
def attempts (policy : RetryPolicy) (attempt : σ → Except RpcFailure α × σ) :
    (retries ns : Nat) → σ → Retried σ α
  | retries, ns, s =>
    match attempt s with
    | (.ok a, s') => ⟨[], s', .ok a⟩
    | (.error e, s') =>
      if e.isTransient then
        match retries with
        | 0 => ⟨[], s', .error (.failed e)⟩
        | retries + 1 =>
          match policy.nextWait ns with
          | .error fault => ⟨[ns], s', .error (.wait fault)⟩
          | .ok next =>
            let rest := attempts policy attempt retries next s'
            { rest with waits := ns :: rest.waits }
      else ⟨[], s', .error (.failed e)⟩

/-- **A request repeated under a policy.** An attempt takes a state, such as what is left of a
script, to its outcome and the next state. -/
def run (policy : RetryPolicy) (attempt : σ → Except RpcFailure α × σ) (s : σ) :
    Retried σ α :=
  policy.attempts attempt policy.maxRetries.toNat policy.initialWait s

end RetryPolicy

/-- When the attempts start, in ticks of the clock. -/
def Retried.startTimes (r : Retried σ α) : List Nat :=
  r.waits.foldl
    (fun (starts : List Nat) ns => starts ++ [Clock.wake (starts.getLastD 0) (Clock.ticksOf ns)])
    [0]

end TransferLedger
