/-
# TransferLedger.Query.Predicate -- conditions on rows

A predicate speaks of slots and encoded words where a filter speaks of names and hex text. Its
leaves look for one element among the encoded arguments of a row, component by component, or compare
a field of the row. The constructors `conj`, `disj` and `negate` simplify as they build: nested
lists are spliced, single parts stand for themselves, and the constants `always` and `never` are
absorbed.
-/

import TransferLedger.Log.Row

namespace TransferLedger

open TransferLedger.Text

/-! ## Leaves -/

/-- A comparison of one component. -/
inductive Comparison where
  | equal
  | unequal
deriving DecidableEq, Repr

/-- Whether a stored component compares with the wanted one as asked. -/
def Comparison.test [DecidableEq α] : Comparison → (stored wanted : α) → Bool
  | equal, stored, wanted => decide (stored = wanted)
  | unequal, stored, wanted => decide (stored ≠ wanted)

/-- **A search for one encoded argument,** with a comparison for each of its components. -/
structure ArgMatch where
  arg : SlotWord
  exponent : Comparison
  limbs : Comparison
  slot : Comparison
deriving DecidableEq, Repr

namespace ArgMatch

/-- The search for an argument equal to a given one. -/
def equal (arg : SlotWord) : ArgMatch := ⟨arg, .equal, .equal, .equal⟩

/-- The search for an argument that differs from a given one in every component. -/
def apart (arg : SlotWord) : ArgMatch := ⟨arg, .unequal, .unequal, .unequal⟩

/-- Whether one stored argument is what is searched for. -/
def accepts (m : ArgMatch) (stored : SlotWord) : Bool :=
  m.exponent.test stored.exponent m.arg.exponent && m.limbs.test stored.limbs m.arg.limbs &&
    m.slot.test stored.slot m.arg.slot

end ArgMatch

/-- The fields of a row that are compared as text. -/
inductive RowField where
  | address
  | signature
deriving DecidableEq, Repr

namespace RowField

/-- The name of a field in documents. -/
def name : RowField → String
  | address => "address"
  | signature => "signature"

/-- The value of a field. -/
def read : RowField → LogRow → String
  | address, row => row.address
  | signature, row => row.signature

end RowField

/-! ## Predicates -/

/-- **A condition on rows.** -/
inductive Predicate where
  | all (parts : List Predicate)
  | any (parts : List Predicate)
  | not (inner : Predicate)
  | arg (search : ArgMatch)
  | field (name : RowField) (value : String)
deriving Repr

namespace Predicate

/-- The predicate that every row meets. -/
def always : Predicate := .all []

/-- The predicate that no row meets. -/
def never : Predicate := .any []

/-- Whether a predicate is `always`. -/
def isAlways : Predicate → Bool
  | .all [] => true
  | _ => false

/-- Whether a predicate is `never`. -/
def isNever : Predicate → Bool
  | .any [] => true
  | _ => false

mutual

/-- **Whether a row meets a predicate.** Fields are compared without regard to letter case. -/
def holds (row : LogRow) : Predicate → Bool
  | .all parts => allHold row parts
  | .any parts => anyHolds row parts
  | .not inner => !holds row inner
  | .arg search => row.args.any search.accepts
  | .field f value => sameIgnoringCase (f.read row) value
termination_by structural p => p

/-- Whether a row meets all of some predicates. -/
def allHold (row : LogRow) : List Predicate → Bool
  | [] => true
  | p :: rest => holds row p && allHold row rest
termination_by structural ps => ps

/-- Whether a row meets one of some predicates. -/
def anyHolds (row : LogRow) : List Predicate → Bool
  | [] => false
  | p :: rest => holds row p || anyHolds row rest
termination_by structural ps => ps

end

theorem allHold_eq (row : LogRow) (ps : List Predicate) : allHold row ps = ps.all (holds row) := by
  induction ps with
  | nil => rfl
  | cons p rest ih => simp [allHold, ih]

theorem anyHolds_eq (row : LogRow) (ps : List Predicate) :
    anyHolds row ps = ps.any (holds row) := by
  induction ps with
  | nil => rfl
  | cons p rest ih => simp [anyHolds, ih]

/-! ## Building -/

/-- The parts that a part of a conjunction contributes. -/
def conjuncts : Predicate → List Predicate
  | .all parts => parts
  | p => [p]

/-- The parts that a part of a disjunction contributes. -/
def disjuncts : Predicate → List Predicate
  | .any parts => parts
  | p => [p]

/-- **The conjunction of some predicates:** `never` absorbs it, nested conjunctions are spliced in,
and a single part stands for itself. -/
def conj (parts : List Predicate) : Predicate :=
  if parts.any isNever then never
  else
    match parts.flatMap conjuncts with
    | [only] => only
    | flat => .all flat

/-- **The disjunction of some predicates:** `always` absorbs it, nested disjunctions are spliced in,
and a single part stands for itself. -/
def disj (parts : List Predicate) : Predicate :=
  if parts.any isAlways then always
  else
    match parts.flatMap disjuncts with
    | [only] => only
    | flat => .any flat

/-- **The negation of a predicate,** without a double one. -/
def negate : Predicate → Predicate
  | .all [] => never
  | .any [] => always
  | .not inner => inner
  | p => .not p

end Predicate

/-! ## Queries -/

/-- **A predicate on the rows of one event.** -/
structure LogQuery where
  signature : String
  predicate : Predicate
deriving Repr

/-- Whether a row belongs to the event and meets the predicate. -/
def LogQuery.selects (q : LogQuery) (row : LogRow) : Bool :=
  sameIgnoringCase row.signature q.signature && q.predicate.holds row

end TransferLedger
