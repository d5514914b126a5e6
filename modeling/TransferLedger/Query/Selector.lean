/-
# TransferLedger.Query.Selector -- what a document store selects

A document store takes queries as documents. The fields of a query must all be met: a connective is
met by its list of clauses, any other field by the value of the target under that name. A condition
on a value is a value to equal, or an object of operators, all of which must apply. Where a store
would refuse what it reads there is no answer; in particular no connective stands over an empty list.
-/

import TransferLedger.Json.Basic

namespace TransferLedger.Json

/-! ## Reserved keys -/

/-- What may stand over a list of clauses. -/
inductive Connective where
  | and
  | or
  | nor
deriving DecidableEq, Repr

namespace Connective

/-- The connective of a key. -/
def ofKey? (key : String) : Option Connective :=
  if key = "$and" then some .and
  else if key = "$or" then some .or
  else if key = "$nor" then some .nor
  else none

/-- What some answers come to. -/
def join : Connective → List Bool → Bool
  | and, answers => answers.all id
  | or, answers => answers.any id
  | nor, answers => !answers.any id

end Connective

/-- What a condition may ask of a value, other than equality. -/
inductive Operator where
  | unequal
  | not
  /-- An array has an element that a query selects. -/
  | element
deriving DecidableEq, Repr

/-- The operator of a key. -/
def Operator.ofKey? (key : String) : Option Operator :=
  if key = "$ne" then some .unequal
  else if key = "$not" then some .not
  else if key = "$elemMatch" then some .element
  else none

/-- Whether a key is kept for connectives and operators. -/
def isReserved (key : String) : Bool := key.toList.head? == some '$'

/-! ## Selecting -/

mutual

/-- **Whether a query selects a target.** -/
def selects? : (query target : Json) → Option Bool
  | .obj fields, target => allMet? fields target
  | _, _ => none
termination_by structural query => query

/-- Whether a target meets all fields of a query. -/
def allMet? : (fields : List (String × Json)) → (target : Json) → Option Bool
  | [], _ => some true
  | field :: rest, target => do
    let first ← isMet? field target
    let others ← allMet? rest target
    return first && others
termination_by structural fields => fields

/-- Whether a target meets one field of a query. -/
def isMet? : (field : String × Json) → (target : Json) → Option Bool
  | (key, asked), target =>
    match Connective.ofKey? key with
    | some c => joined? asked c target
    | none => if isReserved key then none else holds? asked (target.get? key)
termination_by structural field => field

/-- What the clauses under a connective come to. -/
def joined? : (clauses : Json) → (c : Connective) → (target : Json) → Option Bool
  | .arr [], _, _ => none
  | .arr (clause :: rest), c, target => do
    let first ← selects? clause target
    let others ← answers? rest target
    return c.join (first :: others)
  | _, _, _ => none
termination_by structural clauses => clauses

/-- Which of some clauses select a target. -/
def answers? : (clauses : List Json) → (target : Json) → Option (List Bool)
  | [], _ => some []
  | clause :: rest, target => do
    let first ← selects? clause target
    let others ← answers? rest target
    return first :: others
termination_by structural clauses => clauses

/-- Whether a condition holds of a value, which may be missing. -/
def holds? : (condition : Json) → (value : Option Json) → Option Bool
  | .obj [], _ => none
  | .obj (operator :: rest), value => do
    let first ← applies? operator value
    let others ← allApply? rest value
    return first && others
  | wanted, value => some (value == some wanted)
termination_by structural condition => condition

/-- Whether all of some operators apply to a value. -/
def allApply? : (operators : List (String × Json)) → (value : Option Json) → Option Bool
  | [], _ => some true
  | operator :: rest, value => do
    let first ← applies? operator value
    let others ← allApply? rest value
    return first && others
termination_by structural operators => operators

/-- Whether an operator applies to a value. Only operators are negated, not values. -/
def applies? : (operator : String × Json) → (value : Option Json) → Option Bool
  | (key, operand), value =>
    match Operator.ofKey? key, operand with
    | some .unequal, unwanted => some (value != some unwanted)
    | some .not, .obj (operator :: rest) => do
      let first ← applies? operator value
      let others ← allApply? rest value
      return !(first && others)
    | some .element, query =>
      match value with
      | some (.arr items) => (items.mapM fun item => selects? query item).map (·.any id)
      | _ => some false
    | _, _ => none
termination_by structural operator => operator

end

/-! ## The shape of a query -/

mutual

/-- **Whether every connective in a document stands over some clauses,** at any depth. -/
def areListsFilled : Json → Bool
  | .arr items => areItemsFilled items
  | .obj fields => areFieldsFilled fields
  | _ => true
termination_by structural j => j

/-- Whether every connective in some documents stands over some clauses. -/
def areItemsFilled : List Json → Bool
  | [] => true
  | item :: rest => areListsFilled item && areItemsFilled rest
termination_by structural items => items

/-- Whether every connective among some fields, or in one of them, stands over some clauses. -/
def areFieldsFilled : List (String × Json) → Bool
  | [] => true
  | field :: rest => isFieldFilled field && areFieldsFilled rest
termination_by structural fields => fields

/-- Whether a field, if it is a connective, and every connective in it stand over some clauses. -/
def isFieldFilled : String × Json → Bool
  | (key, value) =>
    !((Connective.ofKey? key).isSome && value == .arr []) && areListsFilled value
termination_by structural field => field

end

mutual

/-- **How often a key occurs in a document,** at any depth. -/
def occurrences (key : String) : Json → Nat
  | .arr items => occurrencesInItems key items
  | .obj fields => occurrencesInFields key fields
  | _ => 0
termination_by structural j => j

/-- How often a key occurs in some documents. -/
def occurrencesInItems (key : String) : List Json → Nat
  | [] => 0
  | item :: rest => occurrences key item + occurrencesInItems key rest
termination_by structural items => items

/-- How often a key occurs among some fields or in one of them. -/
def occurrencesInFields (key : String) : List (String × Json) → Nat
  | [] => 0
  | field :: rest => occurrencesInField key field + occurrencesInFields key rest
termination_by structural fields => fields

/-- How often a key occurs as the name of a field or in it. -/
def occurrencesInField (key : String) : String × Json → Nat
  | (name, value) => (if name = key then 1 else 0) + occurrences key value
termination_by structural field => field

end

end TransferLedger.Json
