/-
# TransferLedger.Json.Basic -- document values

Filters, notifications, stored columns and messages are JSON documents. A value keeps the fields of
an object in the order of their keys, as every document of this library is written that way;
`object` builds such a value from any list of fields.
-/

import TransferLedger.Number.Binary64

namespace TransferLedger

open TransferLedger.Number

/-- **A number of a document:** an integer between -2^63 and 2^64, or a fraction. -/
inductive Json.Number where
  | integer (n : Int)
  | fraction (x : Binary64)
deriving DecidableEq, Repr

/-- **A document value.** -/
inductive Json where
  | null
  | bool (b : Bool)
  | num (n : Json.Number)
  | str (s : String)
  | arr (items : List Json)
  | obj (fields : List (String × Json))
deriving Repr

instance : Inhabited Json := ⟨.null⟩

namespace Json

/-! ## Equality -/

mutual

/-- Structural equality. -/
def eqv : (a b : Json) → Bool
  | .null, .null => true
  | .bool a, .bool b => a == b
  | .num a, .num b => a == b
  | .str a, .str b => a == b
  | .arr a, .arr b => eqvItems a b
  | .obj a, .obj b => eqvFields a b
  | _, _ => false
termination_by structural a => a

/-- Structural equality of lists of values. -/
def eqvItems : (a b : List Json) → Bool
  | [], [] => true
  | x :: xs, y :: ys => x.eqv y && eqvItems xs ys
  | _, _ => false
termination_by structural a => a

/-- Structural equality of lists of fields. -/
def eqvFields : (a b : List (String × Json)) → Bool
  | [], [] => true
  | x :: xs, y :: ys => eqvField x y && eqvFields xs ys
  | _, _ => false
termination_by structural a => a

/-- Structural equality of fields. -/
def eqvField : (a b : String × Json) → Bool
  | (k, x), (l, y) => k == l && x.eqv y
termination_by structural a => a

end

mutual

theorem eqv_iff : ∀ (a b : Json), a.eqv b = true ↔ a = b
  | .null, b => by cases b <;> simp [eqv]
  | .bool _, b => by cases b <;> simp [eqv]
  | .num _, b => by cases b <;> simp [eqv]
  | .str _, b => by cases b <;> simp [eqv]
  | .arr xs, b => by
    cases b with
    | arr ys => simp [eqv, eqvItems_iff xs ys]
    | _ => simp [eqv]
  | .obj xs, b => by
    cases b with
    | obj ys => simp [eqv, eqvFields_iff xs ys]
    | _ => simp [eqv]

theorem eqvItems_iff : ∀ (a b : List Json), eqvItems a b = true ↔ a = b
  | [], b => by cases b <;> simp [eqvItems]
  | x :: xs, b => by
    cases b with
    | nil => simp [eqvItems]
    | cons y ys => simp [eqvItems, eqv_iff x y, eqvItems_iff xs ys]

theorem eqvFields_iff : ∀ (a b : List (String × Json)), eqvFields a b = true ↔ a = b
  | [], b => by cases b <;> simp [eqvFields]
  | x :: xs, b => by
    cases b with
    | nil => simp [eqvFields]
    | cons y ys => simp [eqvFields, eqvField_iff x y, eqvFields_iff xs ys]

theorem eqvField_iff : ∀ (a b : String × Json), eqvField a b = true ↔ a = b
  | (k, x), (l, y) => by simp [eqvField, eqv_iff x y]

end

instance : DecidableEq Json := fun a b => decidable_of_iff (a.eqv b = true) (eqv_iff a b)

/-! ## Fields -/

/-- The fields with one set to a value, in the order of the keys. -/
def setField (key : String) (value : Json) : List (String × Json) → List (String × Json)
  | [] => [(key, value)]
  | (k, v) :: rest =>
    if key < k then (key, value) :: (k, v) :: rest
    else if key = k then (key, value) :: rest
    else (k, v) :: setField key value rest

/-- The fields in the order of their keys, the last of several with one key. -/
def sortFields (fields : List (String × Json)) : List (String × Json) :=
  fields.foldl (fun sorted (key, value) => setField key value sorted) []

/-- The object with given fields, the last of several with one key. -/
def object (fields : List (String × Json)) : Json := .obj (sortFields fields)

/-- The value of a field of an object. -/
def get? (key : String) : Json → Option Json
  | .obj fields => fields.lookup key
  | _ => none

/-- The text of a string value. -/
def text? : Json → Option String
  | .str s => some s
  | _ => none

/-- A natural number as a value. -/
def nat (n : Nat) : Json := .num (.integer n)

/-- An integer as a value. -/
def int (n : Int) : Json := .num (.integer n)

/-- A list of texts as a value. -/
def texts (ss : List String) : Json := .arr (ss.map .str)

/-- A value that may be absent, where `null` stands for absence. -/
def orNull (f : α → Json) : Option α → Json
  | none => .null
  | some a => f a

end Json

end TransferLedger
