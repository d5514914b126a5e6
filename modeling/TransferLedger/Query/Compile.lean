/-
# TransferLedger.Query.Compile -- filters against an event

Compiling gives every argument name its slot and every value its encoding. Negation of an equality
is its complement; in the field-wise mode it is instead a search for an argument that differs in
every component. A filter that reduces to `never` selects nothing and is refused.
-/

import TransferLedger.Event.Schema
import TransferLedger.Filter.Document
import TransferLedger.Query.Predicate

namespace TransferLedger

/-- What the negation of an equality selects. -/
inductive Negation where
  /-- The rows without the value at the slot. -/
  | complement
  /-- The rows with an argument that differs in every component. -/
  | fieldWise
deriving DecidableEq, Repr

/-- **A compiler of filters for one event.** -/
structure FilterCompiler where
  schema : EventSchema
  negation : Negation

namespace FilterCompiler

/-- The compiler of filters on token transfers. -/
def transfer : FilterCompiler := ⟨.transfer, .complement⟩

/-! ## Leaves -/

/-- The encoding of a value that is compared with an argument. -/
def encode (name : String) (slot : Nat) (value : String) : Except FilterFailure SlotWord :=
  match Word.ofScalar? value with
  | some w => .ok (SlotWord.ofWord w (UInt64.ofNat slot))
  | none => .error (.malformedValue name value)

/-- The search for a value. -/
def search (name : String) (slot : Nat) (value : String) : Except FilterFailure Predicate :=
  (encode name slot value).map fun arg => .arg (.equal arg)

/-- The negated search for a value. -/
def avoidance (c : FilterCompiler) (name : String) (slot : Nat) (value : String) :
    Except FilterFailure Predicate :=
  match c.negation with
  | .complement => (search name slot value).map Predicate.negate
  | .fieldWise => (encode name slot value).map fun arg => .arg (.apart arg)

/-- The predicate of a comparison. The name is looked up before any value is read. -/
def comparison (c : FilterCompiler) (name : String) (asked : Condition) :
    Except FilterFailure Predicate :=
  match c.schema.slotOf? name with
  | none => .error (.unknownArgument name)
  | some slot =>
    match asked with
    | .equals value => search name slot value
    | .differs value => c.avoidance name slot value
    | .oneOf values => (values.mapM (search name slot)).map Predicate.disj
    | .noneOf values => (values.mapM (c.avoidance name slot)).map Predicate.conj

/-! ## Trees -/

mutual

/-- **The predicate of a filter.** Every leaf is looked at, from left to right, so the first fault
is reported wherever it stands. -/
def predicate (c : FilterCompiler) : LogFilter → Except FilterFailure Predicate
  | .arg name asked => c.comparison name asked
  | .all parts => (predicates c parts).map Predicate.conj
  | .any parts => (predicates c parts).map Predicate.disj
  | .not inner => (predicate c inner).map Predicate.negate
  | .address value => .ok (.field .address (Text.lower value))
termination_by structural filter => filter

/-- The predicates of some filters, in their order. -/
def predicates (c : FilterCompiler) : List LogFilter → Except FilterFailure (List Predicate)
  | [] => .ok []
  | filter :: rest => do
    let p ← predicate c filter
    let ps ← predicates c rest
    return p :: ps
termination_by structural filters => filters

end

/-- **The query of a filter.** -/
def compile (c : FilterCompiler) (filter : LogFilter) : Except FilterFailure LogQuery := do
  let p ← c.predicate filter
  if p.isNever then throw .matchesNothing
  return ⟨c.schema.signature, p⟩

end FilterCompiler

end TransferLedger
