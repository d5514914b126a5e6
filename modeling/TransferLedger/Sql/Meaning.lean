/-
# TransferLedger.Sql.Meaning -- what a statement answers

Conditions are evaluated in three-valued logic, where a missing value leaves a comparison unknown.
Only values of one kind are compared, and only numbers serve as truth values; what would need a
conversion has no value here. A column is that of the innermost selection whose table has one of
that name. The lines that meet the condition come in the order asked for, and lines that this order
does not tell apart come in any order.
-/

import TransferLedger.Sql.Reading

namespace TransferLedger.Sql

/-! ## Truth -/

/-- **A truth value,** none where a missing value leaves it unknown. -/
abbrev Truth := Option Bool

namespace Truth

/-- Whether both hold. One that fails decides. -/
def both : Truth → Truth → Truth
  | some false, _ => some false
  | _, some false => some false
  | some true, some true => some true
  | _, _ => none

/-- Whether one of two holds. One that holds decides. -/
def either : Truth → Truth → Truth
  | some true, _ => some true
  | _, some true => some true
  | some false, some false => some false
  | _, _ => none

/-- A truth value as a value: one or zero. -/
def toValue : Truth → Value
  | none => .null
  | some b => .integer (if b then 1 else 0)

/-- The truth value of a value: zero is false. Texts would have to be converted. -/
def ofValue? : Value → Option Truth
  | .null => some none
  | .integer n => some (some (decide (n ≠ 0)))
  | .text _ => none

@[simp] theorem ofValue?_toValue (t : Truth) : ofValue? t.toValue = some t := by
  rcases t with _ | _ | _ <;> rfl

@[simp] theorem both_some (a b : Bool) : both (some a) (some b) = some (a && b) := by
  cases a <;> cases b <;> rfl

@[simp] theorem either_some (a b : Bool) : either (some a) (some b) = some (a || b) := by
  cases a <;> cases b <;> rfl

end Truth

/-- What a comparison says of two values, if they are of one kind. -/
def compared (c : Comparison) : Value → Value → Option Truth
  | .null, _ => some none
  | _, .null => some none
  | .integer a, .integer b => some (some (c.test a b))
  | .text a, .text b => some (some (c.test a b))
  | _, _ => none

/-- Whether a value is among some others: equal to the first of them, or to one of the rest. -/
def occurs (v : Value) : List Value → Option Truth
  | [] => some (some false)
  | w :: rest => do
    let here ← compared .equal v w
    let there ← occurs v rest
    return here.either there

/-! ## Expressions -/

/-- The lines whose truth value is true, if all have one. -/
def kept (truth : Row → Option Truth) : List Row → Option (List Row)
  | [] => some []
  | row :: rest => do
    let t ← truth row
    let later ← kept truth rest
    return if t = some true then row :: later else later

/-- **The value of an expression** under bound values, for a line of each selection around it, the
innermost first. -/
def value? (db : Database) (bound : List Value) : Expr → List Row → Option Value
  | .number n, _ => some (.integer n)
  | .parameter i, _ => bound[i]?
  | .column name, lines => lines.findSome? (·.lookup name)
  | .compare c left right, lines => do
    let t ← compared c (← value? db bound left lines) (← value? db bound right lines)
    return t.toValue
  | .not inner, lines => do
    let t ← Truth.ofValue? (← value? db bound inner lines)
    return Truth.toValue (t.map (!·))
  | .and left right, lines => do
    let l ← Truth.ofValue? (← value? db bound left lines)
    let r ← Truth.ofValue? (← value? db bound right lines)
    return (l.both r).toValue
  | .or left right, lines => do
    let l ← Truth.ofValue? (← value? db bound left lines)
    let r ← Truth.ofValue? (← value? db bound right lines)
    return (l.either r).toValue
  | .among subject column table condition, lines => do
    let wanted ← value? db bound subject lines
    let found ← kept (fun line => (value? db bound condition (line :: lines)).bind Truth.ofValue?)
      (← db table)
    let t ← occurs wanted (← found.mapM (·.lookup column))
    return t.toValue

/-- The truth value of a condition. -/
def truth? (db : Database) (bound : List Value) (e : Expr) (lines : List Row) : Option Truth :=
  (value? db bound e lines).bind Truth.ofValue?

/-! ## Statements -/

/-- Whether some numbers come at or before others: the first ones that differ decide. -/
def NotAfter : List Value → List Value → Prop
  | [], [] => True
  | .integer a :: as, .integer b :: bs => a < b ∨ (a = b ∧ NotAfter as bs)
  | _, _ => False

/-- **What a statement can answer:** the column of the lines that meet the condition, in some order
in which no line comes before an earlier one. -/
def Selection.Answers (s : Selection) (db : Database) (bound answer : List Value) : Prop :=
  bound.length = s.parameters ∧
    ∃ (rows selected sorted : List Row) (places : List (List Value)),
      db s.table = some rows ∧
      kept (fun line => truth? db bound s.condition [line]) rows = some selected ∧
      sorted.Perm selected ∧
      sorted.mapM (fun line => s.order.mapM fun column => line.lookup column) = some places ∧
      places.Pairwise NotAfter ∧
      sorted.mapM (fun line => line.lookup s.column) = some answer

/-- What the statement that a text spells can answer. -/
def Answers (text : String) (db : Database) (bound answer : List Value) : Prop :=
  ∃ s, ofText? text = some s ∧ s.Answers db bound answer

end TransferLedger.Sql
