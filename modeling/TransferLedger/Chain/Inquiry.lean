/-
# TransferLedger.Chain.Inquiry -- asking the chain

An inquiry is a sequence of questions to the chain that ends with an answer or at its first failure.
It keeps the questions in the order in which they were asked, so that it can be told how often each
contract was read. The chain itself is a pair of functions: its answers do not change in the course
of one inquiry.
-/

import TransferLedger.Failure
import TransferLedger.Number.Word

namespace TransferLedger

/-- One question to the chain. -/
inductive Question where
  /-- The native balance of an address. -/
  | balance (address : String)
  /-- A read-only call of a contract, with its data in hex. -/
  | call (contract data : String)
deriving DecidableEq, Repr

/-- **A chain, by its answers.** -/
structure Chain where
  balance : String → Except RpcFailure Word
  call : (contract data : String) → Except RpcFailure String

/-- **A course of questions and what came of it.** -/
structure Inquiry (α : Type) where
  asked : List Question
  answer : Except Failure α

namespace Inquiry

/-- An answer without questions. -/
protected def pure (a : α) : Inquiry α := ⟨[], .ok a⟩

/-- One inquiry after another; nothing is asked after a failure. -/
protected def bind (x : Inquiry α) (f : α → Inquiry β) : Inquiry β :=
  match x.answer with
  | .ok a => ⟨x.asked ++ (f a).asked, (f a).answer⟩
  | .error e => ⟨x.asked, .error e⟩

instance : Monad Inquiry where
  pure := Inquiry.pure
  bind := Inquiry.bind

/-- A result that needs no question. -/
def ofExcept (r : Except Failure α) : Inquiry α := ⟨[], r⟩

/-- The same inquiry, whose failure arises within a step. -/
def within (context : String) (x : Inquiry α) : Inquiry α :=
  ⟨x.asked, x.answer.mapError (Failure.within context)⟩

theorem bind_of_ok {x : Inquiry α} {f : α → Inquiry β} {a : α} (h : x.answer = .ok a) :
    x >>= f = ⟨x.asked ++ (f a).asked, (f a).answer⟩ := by
  simp [Bind.bind, Inquiry.bind, h]

theorem bind_of_error {x : Inquiry α} {f : α → Inquiry β} {e : Failure} (h : x.answer = .error e) :
    x >>= f = ⟨x.asked, .error e⟩ := by
  simp [Bind.bind, Inquiry.bind, h]

end Inquiry

namespace Chain

/-- Asking for the native balance of an address. -/
def askBalance (chain : Chain) (address : String) : Inquiry Word :=
  ⟨[.balance address], (chain.balance address).mapError fun e => .of (.rpc e)⟩

/-- Asking a contract. -/
def askCall (chain : Chain) (contract data : String) : Inquiry String :=
  ⟨[.call contract data], (chain.call contract data).mapError fun e => .of (.rpc e)⟩

end Chain

end TransferLedger
