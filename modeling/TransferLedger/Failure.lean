/-
# TransferLedger.Failure -- causes in their context

A failure has one cause and the steps in which it arose, outermost first. Where the cause has no
wording of this library its place in the message is left out.
-/

import TransferLedger.Chain.Failure
import TransferLedger.Filter.Failure

namespace TransferLedger

/-- Results are equal if both are values or both failures, and equal ones. -/
instance decidableEqExcept {ε α : Type} [DecidableEq ε] [DecidableEq α] :
    DecidableEq (Except ε α)
  | .ok a, .ok b => decidable_of_iff (a = b) (by rw [Except.ok.injEq])
  | .error e, .error f => decidable_of_iff (e = f) (by rw [Except.error.injEq])
  | .ok _, .error _ => isFalse nofun
  | .error _, .ok _ => isFalse nofun

/-- What went wrong. -/
inductive Cause where
  | filter (failure : FilterFailure)
  | rpc (failure : RpcFailure)
  /-- A fault of this library's own wording. -/
  | other (message : String)
  /-- A text is no document of the right kind. -/
  | json
  /-- A text is not hex. -/
  | hex
  /-- Bytes are no encoded value. -/
  | abi
  /-- Bytes are no text. -/
  | utf8
  /-- A database cannot be used. -/
  | database
deriving DecidableEq, Repr

/-- The wording of a cause, if it has one. -/
def Cause.message? : Cause → Option String
  | filter failure => some failure.message
  | rpc failure => some failure.message
  | other message => some message
  | json | hex | abi | utf8 | database => none

/-- **A cause with the steps in which it arose,** outermost first. -/
structure Failure where
  contexts : List String
  cause : Cause
deriving DecidableEq, Repr

namespace Failure

/-- A bare cause. -/
def of (cause : Cause) : Failure := ⟨[], cause⟩

/-- The failure within one more step. -/
def within (context : String) (f : Failure) : Failure := ⟨context :: f.contexts, f.cause⟩

/-- The whole chain in words. -/
def message (f : Failure) : String := ": ".intercalate (f.contexts ++ f.cause.message?.toList)

/-- The outermost step in words, or the cause if there is no step. -/
def headline (f : Failure) : String := (f.contexts ++ f.cause.message?.toList).headD ""

end Failure

/-- A result whose failure arose within a step. -/
def Except.within (context : String) (r : Except Failure α) : Except Failure α :=
  r.mapError (Failure.within context)

end TransferLedger
