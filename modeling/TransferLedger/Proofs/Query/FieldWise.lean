/-
# TransferLedger.Proofs.Query.FieldWise -- what the field-wise negation selects

The field-wise negation looks for an argument whose encoding differs in every component at once. That
is less than an argument that is another number: it has to stand at another slot than the one that is
asked about, to have another count of decimal digits, and not to be the value with groups of fourteen
zeros put behind it or taken off, since such numbers have the same limbs. A row is selected exactly if
it has such an argument, and so a row may be hidden of which every argument differs from the value.
-/

import TransferLedger.Proofs.Log.Rows

namespace TransferLedger

open TransferLedger.Number

/-! ## Words apart -/

/-- **Words that differ in both components of their encodings:** they have not as many digits, and
neither of them is the other with groups of fourteen zeros behind it. -/
def Word.Apart (v w : Word) : Prop :=
  decimalWidth v.toNat ≠ decimalWidth w.toNat ∧
    ∀ groups : Nat, v.toNat ≠ (10 ^ 14) ^ groups * w.toNat ∧ w.toNat ≠ (10 ^ 14) ^ groups * v.toNat

theorem apart_iff {v w : Word} {i j : UInt64} :
    v.Apart w ↔ (SlotWord.ofWord v i).exponent ≠ (SlotWord.ofWord w j).exponent ∧
      (SlotWord.ofWord v i).limbs ≠ (SlotWord.ofWord w j).limbs := by
  rw [Ne, Ne, SlotWord.exponent_ofWord_inj, SlotWord.limbs_ofWord_inj, SlotWord.limbsOf_inj]
  simp only [not_exists, not_or]
  rfl

/-! ## Searching for them -/

theorem ArgMatch.apart_accepts_iff {arg stored : SlotWord} :
    (ArgMatch.apart arg).accepts stored = true ↔
      stored.exponent ≠ arg.exponent ∧ stored.limbs ≠ arg.limbs ∧ stored.slot ≠ arg.slot := by
  simp [ArgMatch.apart, ArgMatch.accepts, Comparison.test, and_assoc]

namespace LogRow

variable {log : RawLog} {row : LogRow}

/-- Every argument of the row of a log is the encoding of a word. -/
theorem exists_ofWord_of_mem_args (made : ofLog log = .ok row) {a : SlotWord} (ha : a ∈ row.args) :
    ∃ w, a = SlotWord.ofWord w a.slot := by
  obtain ⟨args, encoded, rfl⟩ := ofLog_eq_ok_iff.mp made
  obtain ⟨i, there⟩ := List.mem_iff_getElem?.mp ha
  have at_ := getElem?_of_argsOf encoded i
  obtain ⟨w, -, rfl⟩ := Option.map_eq_some_iff.mp (at_.symm.trans there)
  exact ⟨w, rfl⟩

/-- A row has an argument that differs from a word in every component exactly if it holds a word apart
from it at another slot. -/
theorem any_apart_iff (made : ofLog log = .ok row) {v : Word} {slot : UInt64} :
    row.args.any (ArgMatch.apart (SlotWord.ofWord v slot)).accepts = true ↔
      ∃ a ∈ row.args, ∃ w, a.toWord? = some w ∧ a.slot ≠ slot ∧ w.Apart v := by
  rw [List.any_eq_true]
  refine exists_congr fun a => and_congr_right fun ha => ?_
  obtain ⟨w, encoding⟩ := exists_ofWord_of_mem_args made ha
  have number : a.toWord? = some w := encoding ▸ SlotWord.toWord?_ofWord w a.slot
  -- What is stored is the encoding of the word that it reads back as, and so of no other.
  rw [ArgMatch.apart_accepts_iff, encoding]
  constructor
  · rintro ⟨exponent, limbs, other⟩
    exact ⟨w, encoding ▸ number, other, apart_iff.mpr ⟨exponent, limbs⟩⟩
  · rintro ⟨w', number', other, far⟩
    rw [← encoding, number] at number'
    cases number'
    obtain ⟨exponent, limbs⟩ := apart_iff.mp far
    exact ⟨exponent, limbs, other⟩

end LogRow

/-! ## Queries -/

namespace FilterCompiler

/-- **What the field-wise negation of a comparison selects.** For every declared name and every value
it compiles, and of the rows of the event it selects exactly those that hold, at another slot than that
of the name, a word that is apart from the value. -/
theorem field_wise_selects_iff {s : EventSchema} {name value : String} {slot : Nat} {v : Word}
    (declared : s.slotOf? name = some slot) (read : Word.ofScalar? value = some v) {log : RawLog}
    {row : LogRow} (signed : s.signs log = true) (made : LogRow.ofLog log = .ok row) :
    ∃ q, compile ⟨s, .fieldWise⟩ (.arg name (.differs value)) = .ok q ∧
      (q.selects row = true ↔
        ∃ a ∈ row.args, ∃ w, a.toWord? = some w ∧ a.slot ≠ UInt64.ofNat slot ∧ w.Apart v) := by
  let search := ArgMatch.apart (SlotWord.ofWord v (UInt64.ofNat slot))
  have encoded : encode name slot value = .ok (SlotWord.ofWord v (UInt64.ofNat slot)) := by
    rw [encode, read]
  have built : predicate ⟨s, .fieldWise⟩ (.arg name (.differs value)) = .ok (.arg search) := by
    simp only [predicate, comparison, declared, avoidance, encoded, Except.map]
    rfl
  refine ⟨⟨s.signature, .arg search⟩, compile_eq_ok.mpr ⟨_, built, rfl, rfl⟩, ?_⟩
  -- The signature is met, so that the search alone decides.
  rw [LogQuery.selects, LogRow.signature_of_signs signed made, Text.sameIgnoringCase,
    beq_self_eq_true, Bool.true_and, Predicate.holds]
  exact LogRow.any_apart_iff made

end FilterCompiler

namespace HiddenRow

/-- A transfer with one word for each of its arguments. -/
def log (sender receiver amount : String) : RawLog :=
  ⟨7, 0, 1, false, "0xA", [EventSchema.transferTopic, sender, receiver], amount⟩

/-- The query for transfers whose receiver differs from a value. -/
def query (value : String) : Except FilterFailure LogQuery :=
  FilterCompiler.compile ⟨.transfer, .fieldWise⟩ (.arg "to" (.differs value))

/-- **A row is hidden although all of its arguments differ from the value:** the numbers 10, 11 and 12
have as many digits as 13. -/
theorem differing_row_is_hidden :
    ∃ q row, query "0xd" = .ok q ∧ LogRow.ofLog (log "0xa" "0xb" "0xc") = .ok row ∧
      EventSchema.transfer.signs (log "0xa" "0xb" "0xc") = true ∧
      EventSchema.transfer.slotOf? "to" = some 1 ∧ Word.ofScalar? "0xd" = some 13 ∧
      row.args.map SlotWord.toWord? = [some 10, some 11, some 12] ∧ q.selects row = false := by
  obtain ⟨q, compiled⟩ : ∃ q, query "0xd" = .ok q := Fallible.exists_of_isOk (by decide +kernel)
  obtain ⟨row, made⟩ : ∃ row, LogRow.ofLog (log "0xa" "0xb" "0xc") = .ok row :=
    Fallible.exists_of_isOk (by decide +kernel)
  have numbers : (LogRow.ofLog (log "0xa" "0xb" "0xc")).map (·.args.map SlotWord.toWord?) =
      .ok [some 10, some 11, some 12] := by decide +kernel
  have unselected : (query "0xd").toOption.all (fun q =>
      (LogRow.ofLog (log "0xa" "0xb" "0xc")).toOption.all (!q.selects ·)) = true := by
    decide +kernel
  rw [made] at numbers unselected
  rw [compiled] at unselected
  refine ⟨q, row, compiled, made, by decide +kernel, by decide +kernel, by decide +kernel, ?_, ?_⟩
  · simpa [Except.map] using numbers
  · simpa [Except.toOption] using unselected

/-- A row with the value is selected for another argument, and a row without it is hidden where the
number 10^14 stands for 1. -/
theorem shifted_row_is_hidden :
    (∃ q row, query "0xb" = .ok q ∧ LogRow.ofLog (log "0x0" "0xb" "0x64") = .ok row ∧
      q.selects row = true) ∧
      ∃ q row, query "0x1" = .ok q ∧ LogRow.ofLog (log "0x5af3107a4000" "0x1" "0x2") = .ok row ∧
        q.selects row = false := by
  have declared : EventSchema.transfer.slotOf? "to" = some 1 := by decide +kernel
  constructor
  · obtain ⟨row, made⟩ : ∃ row, LogRow.ofLog (log "0x0" "0xb" "0x64") = .ok row :=
      Fallible.exists_of_isOk (by decide +kernel)
    obtain ⟨q, compiled, selected⟩ := FilterCompiler.field_wise_selects_iff declared
      (show Word.ofScalar? "0xb" = some 11 by decide +kernel) (by decide +kernel) made
    have args : (LogRow.ofLog (log "0x0" "0xb" "0x64")).map (·.args) =
        .ok [SlotWord.ofWord 0 0, SlotWord.ofWord 11 1, SlotWord.ofWord 100 2] := by decide +kernel
    rw [made, Except.map, Except.ok.injEq] at args
    refine ⟨q, row, compiled, made, selected.mpr ?_⟩
    rw [args]
    refine ⟨_, List.mem_cons_self, 0, SlotWord.toWord?_ofWord 0 0, by decide, by decide, ?_⟩
    intro groups
    simp
  · obtain ⟨row, made⟩ : ∃ row, LogRow.ofLog (log "0x5af3107a4000" "0x1" "0x2") = .ok row :=
      Fallible.exists_of_isOk (by decide +kernel)
    obtain ⟨q, compiled, selected⟩ := FilterCompiler.field_wise_selects_iff declared
      (show Word.ofScalar? "0x1" = some 1 by decide +kernel) (by decide +kernel) made
    have args : (LogRow.ofLog (log "0x5af3107a4000" "0x1" "0x2")).map (·.args) =
        .ok [SlotWord.ofWord (10 ^ 14) 0, SlotWord.ofWord 1 1, SlotWord.ofWord 2 2] := by
      decide +kernel
    rw [made, Except.map, Except.ok.injEq] at args
    refine ⟨q, row, compiled, made, Bool.eq_false_iff.mpr fun hit => ?_⟩
    obtain ⟨a, ha, w, number, other, far⟩ := selected.mp hit
    simp only [args, List.mem_cons, List.not_mem_nil, or_false] at ha
    -- The first has the limbs of 1, the second stands at the slot, and the third has as many digits.
    rcases ha with rfl | rfl | rfl
    · rw [SlotWord.toWord?_ofWord] at number
      cases number
      exact absurd rfl (far.2 1).1
    · exact absurd rfl other
    · rw [SlotWord.toWord?_ofWord] at number
      cases number
      exact absurd rfl far.1

end HiddenRow

end TransferLedger
