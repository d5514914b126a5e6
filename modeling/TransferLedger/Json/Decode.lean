/-
# TransferLedger.Json.Decode -- typed values out of a reading

A decoder walks a reading in the order of its text and stops at the first fault. There are two: the
text is *malformed*, or it is well formed so far and has the *wrong shape*. A record is read from an
object, where unknown fields are passed over and a known one may stand once, or from an array of its
fields in their declared order, where fields with a default may be missing at the end.
-/

import TransferLedger.Json.Reading

namespace TransferLedger.Json

open TransferLedger.Number

/-- Why a reading is no value of a type. -/
inductive Fault where
  /-- The text is not well formed. -/
  | malformed
  /-- The text is well formed up to a part of the wrong shape. -/
  | misshapen
deriving DecidableEq, Repr

/-- A decoder of readings. -/
abbrev Decoder (α : Type) := Reading → Except Fault α

namespace Decoder

/-! ## Parts -/

/-- The fault of a reading that a decoder has no use for: broken scalars are malformed text. -/
def refuse : Reading → Fault
  | .fault | .num none | .str none => .malformed
  | _ => .misshapen

mutual

/-- Passing over a reading, which only has to be well formed. -/
def skim : Reading → Except Fault Unit
  | .fault => .error .malformed
  | .arr items => skimItems items
  | .obj fields => skimFields fields
  | _ => .ok ()
termination_by structural r => r

/-- Passing over items. -/
def skimItems : List Reading → Except Fault Unit
  | [] => .ok ()
  | r :: rs => do
    skim r
    skimItems rs
termination_by structural rs => rs

/-- Passing over fields. -/
def skimFields : List (Option String × Reading) → Except Fault Unit
  | [] => .ok ()
  | f :: fs => do
    skimField f
    skimFields fs
termination_by structural fs => fs

/-- Passing over a field. -/
def skimField : Option String × Reading → Except Fault Unit
  | (_, r) => skim r
termination_by structural f => f

end

/-- A string. -/
def text : Decoder String
  | .str (some s) => .ok s
  | r => .error (refuse r)

/-- A truth value. -/
def flag : Decoder Bool
  | .bool b => .ok b
  | r => .error (refuse r)

/-- An integer from `low` up to and without `high`. -/
def integer (low high : Int) : Decoder Int
  | .num (some (.integer n)) =>
    if low ≤ n ∧ n < high then .ok n else .error .misshapen
  | r => .error (refuse r)

/-- An unsigned number of 32 bits. -/
def word32 : Decoder UInt32 := fun r => (integer 0 (2 ^ 32) r).map fun n => UInt32.ofNat n.toNat

/-- An unsigned number of 64 bits. -/
def word64 : Decoder UInt64 := fun r => (integer 0 (2 ^ 64) r).map fun n => UInt64.ofNat n.toNat

/-- A signed number of 64 bits. -/
def signed64 : Decoder Int64 := fun r =>
  (integer (-(2 ^ 63)) (2 ^ 63) r).map Int64.ofInt

/-- A list, each item of one type. -/
def list (item : Decoder α) : Decoder (List α)
  | .arr items => items.mapM item
  | r => .error (refuse r)

/-- A value or `null`. -/
def optional (item : Decoder α) : Decoder (Option α)
  | .null => .ok none
  | r => (item r).map some

/-- A document, where `levels` arrays and objects may still nest. -/
def document (levels : Nat) : Decoder Json := fun r =>
  match r.toJson? levels with
  | some j => .ok j
  | none => .error .malformed

/-! ## Records -/

/-- A declared field: its name, and a check that its value can be decoded. -/
structure Field where
  name : String
  check : Reading → Except Fault Unit

/-- A declared field with its decoder. -/
def field (name : String) (decoder : Decoder α) : Field :=
  ⟨name, fun r => (decoder r).map fun _ => ()⟩

/-- Walks the fields of an object: each declared one is checked where it stands, and must not stand
again. -/
def checkFields (declared : List Field) : (seen : List String) →
    List (Option String × Reading) → Except Fault Unit
  | _, [] => .ok ()
  | _, (none, _) :: _ => .error .malformed
  | seen, (some name, value) :: rest =>
    match declared.find? (·.name == name) with
    | none => do
      skim value
      checkFields declared seen rest
    | some f =>
      if seen.contains name then .error .misshapen
      else do
        f.check value
        checkFields declared (name :: seen) rest

/-- Walks an array of fields in their declared order; nothing may follow the last one. -/
def checkItems : (declared : List Field) → List Reading → Except Fault Unit
  | _, [] => .ok ()
  | [], _ :: _ => .error .malformed
  | f :: fs, value :: rest => do
    f.check value
    checkItems fs rest

/-- The fields of a record by name, and whether the text names them. -/
structure Record where
  named : Bool
  fields : List (String × Reading)

/-- **The fields of a record,** after every one that is present has been checked. -/
def record (declared : List Field) : Decoder Record
  | .obj fields => do
    checkFields declared [] fields
    return ⟨true, fields.filterMap fun (name, value) => name.map (·, value)⟩
  | .arr items => do
    checkItems declared items
    return ⟨false, (declared.map (·.name)).zip items⟩
  | r => .error (refuse r)

/-- A field that has to be present. -/
def Record.need (record : Record) (name : String) (decoder : Decoder α) : Except Fault α :=
  match record.fields.lookup name with
  | some r => decoder r
  | none => .error .misshapen

/-- A field that may be missing. -/
def Record.orElse (record : Record) (name : String) (decoder : Decoder α) (absent : α) :
    Except Fault α :=
  match record.fields.lookup name with
  | some r => decoder r
  | none => .ok absent

/-- A field that may be missing where fields are named. An array of fields has to hold it. -/
def Record.optional (record : Record) (name : String) (decoder : Decoder (Option α)) :
    Except Fault (Option α) :=
  if record.named then record.orElse name decoder none else record.need name decoder

/-- The value of a document under a decoder. -/
def ofJson? (decoder : Decoder α) (j : Json) : Option α := (decoder (Reading.ofJson j)).toOption

/-- The value of a whole text under a decoder. -/
def ofText? (decoder : Decoder α) (bytes : List UInt8) : Option α :=
  match Reading.ofBytes bytes with
  | (reading, true) => (decoder reading).toOption
  | (_, false) => none

/-- The value at the front of a text under a decoder; what follows it is not looked at. -/
def ofFront (decoder : Decoder α) (bytes : List UInt8) : Except Fault α :=
  decoder (Reading.ofBytes bytes).1

end Decoder

end TransferLedger.Json
