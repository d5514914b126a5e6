/-
# TransferLedger.Proofs.Json.Written -- what was written decodes to itself

A decoder walks the reading of a text, and the reading of a written document is the document. So a
typed value comes back from its text if the decoder undoes the writing on documents, and it does on a
list if it does on each item. Unsigned words are written as numbers and come back as they were.
-/

import TransferLedger.Json.Decode
import TransferLedger.Proofs.Json.RoundTrip

namespace TransferLedger.Json

open TransferLedger.Text

theorem isKept_nat {n : Nat} (h : n < 2 ^ 64) : (nat n).isKept = true := by
  rw [nat, isKept, Number.isKept, Bool.and_eq_true, decide_eq_true_eq, decide_eq_true_eq]
  omega

theorem areItemsKept_map {write : α → Json} (kept : ∀ a, (write a).isKept = true) (as : List α) :
    areItemsKept (as.map write) = true := by
  induction as with
  | nil => rfl
  | cons a as ih =>
    rw [List.map_cons, areItemsKept, kept a, ih]
    rfl

namespace Decoder

/-! ## Numbers -/

theorem integer_nat {n : Nat} {high : Int} (h : (n : Int) < high) :
    integer 0 high (Reading.ofJson (.nat n)) = .ok (n : Int) := by
  rw [Json.nat, Reading.ofJson, integer, if_pos ⟨Int.natCast_nonneg n, h⟩]

theorem word64_nat (x : UInt64) : word64 (Reading.ofJson (.nat x.toNat)) = .ok x := by
  have small : (x.toNat : Int) < 2 ^ 64 := by exact_mod_cast x.toNat_lt
  rw [word64, integer_nat small]
  exact congrArg Except.ok (UInt64.ofNat_toNat (x := x))

theorem word32_nat (x : UInt32) : word32 (Reading.ofJson (.nat x.toNat)) = .ok x := by
  have small : (x.toNat : Int) < 2 ^ 32 := by exact_mod_cast x.toNat_lt
  rw [word32, integer_nat small]
  exact congrArg Except.ok (UInt32.ofNat_toNat (x := x))

/-! ## Records and lists -/

/-- A record is read from an object whose fields pass their checks. -/
theorem record_obj {declared : List Field} {fields : List (Option String × Reading)}
    (checked : checkFields declared [] fields = .ok ()) :
    record declared (.obj fields) =
      .ok ⟨true, fields.filterMap fun (name, value) => name.map (·, value)⟩ := by
  rw [record, checked]
  rfl

variable {write : α → Json} {decoder : Decoder α}

theorem list_map (back : ∀ a, decoder (Reading.ofJson (write a)) = .ok a) (as : List α) :
    list decoder (Reading.ofJson (.arr (as.map write))) = .ok as := by
  show (Reading.ofItems (as.map write)).mapM decoder = .ok as
  induction as with
  | nil => rfl
  | cons a as ih =>
    rw [List.map_cons, Reading.ofItems, List.mapM_cons, back, ih]
    rfl

/-- **A written list is read back** if each of its items is. -/
theorem ofText?_render (kept : ∀ a, (write a).isKept = true)
    (back : ∀ a, decoder (Reading.ofJson (write a)) = .ok a) (as : List α) :
    ofText? (list decoder) (Utf8.encode (Json.arr (as.map write)).render) = some as := by
  have whole : (Json.arr (as.map write)).isKept = true := areItemsKept_map kept as
  rw [ofText?, Reading.ofBytes_render whole]
  simp only [list_map back]
  rfl

end Decoder

end TransferLedger.Json
