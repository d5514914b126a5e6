/-
# TransferLedger.Proofs.Query.Selection -- a query document selects what the query selects

A query is matched against rows in process, and it is rendered as a document for a store. On a row
whose texts are in lower case, and for a query whose texts are, a store gives the answer that the
query gives, whatever the shape of the query. The induction is on the predicate; it goes through for
rendered clauses, and the top of a document is one of these next to the signature.
-/

import TransferLedger.Proofs.Query.Agreement
import TransferLedger.Proofs.Query.Rendering

namespace TransferLedger

open TransferLedger.Text

/-! ## Single fields -/

namespace Json

theorem selects?_field (key : String) (asked target : Json) :
    selects? (.obj [(key, asked)]) target = isMet? (key, asked) target := by
  rw [selects?, allMet?, allMet?]
  cases isMet? (key, asked) target <;> simp

theorem allMet?_concat {fields : List (String × Json)} {field : String × Json} {target : Json}
    {first last : Bool} (hf : allMet? fields target = some first)
    (hl : isMet? field target = some last) :
    allMet? (fields ++ [field]) target = some (first && last) := by
  induction fields generalizing first with
  | nil =>
    cases hf
    rw [List.nil_append, allMet?, hl]
    simp [allMet?]
  | cons f rest ih =>
    rw [allMet?] at hf
    obtain ⟨own, hown, hf⟩ := Option.bind_eq_some_iff.mp hf
    obtain ⟨others, hothers, hf⟩ := Option.bind_eq_some_iff.mp hf
    obtain rfl := Option.some.inj hf
    rw [List.cons_append, allMet?, hown, ih hothers]
    simp [Bool.and_assoc]

theorem selects?_connective {key : String} {c : Connective} (hc : Connective.ofKey? key = some c)
    {clause target : Json} {rest : List Json} {first : Bool} {others : List Bool}
    (hf : selects? clause target = some first) (ho : answers? rest target = some others) :
    selects? (.obj [(key, .arr (clause :: rest))]) target = some (c.join (first :: others)) := by
  rw [selects?_field, isMet?, hc]
  simp only [joined?, hf, ho]
  rfl

theorem isMet?_plain {key : String} (hc : Connective.ofKey? key = none)
    (hr : isReserved key = false) (asked target : Json) :
    isMet? (key, asked) target = holds? asked (target.get? key) := by
  rw [isMet?, hc]
  simp only [hr, Bool.false_eq_true, if_false]

theorem holds?_operator (key : String) (operand : Json) (value : Option Json) :
    holds? (.obj [(key, operand)]) value = applies? (key, operand) value := by
  rw [holds?, allApply?]
  cases applies? (key, operand) value <;> simp

theorem applies?_unequal (unwanted : Json) (value : Option Json) :
    applies? ("$ne", unwanted) value = some (value != some unwanted) := rfl

theorem applies?_element (query : Json) (items : List Json) :
    applies? ("$elemMatch", query) (some (.arr items)) =
      (items.mapM fun item => selects? query item).map (·.any id) := rfl

/-- A negated operator. -/
theorem applies?_not (key : String) (operand : Json) (value : Option Json) :
    applies? ("$not", .obj [(key, operand)]) value = (applies? (key, operand) value).map (!·) := by
  have unfolded : applies? ("$not", .obj [(key, operand)]) value = (do
      let first ← applies? (key, operand) value
      let others ← some true
      return !(first && others)) := rfl
  rw [unfolded]
  cases applies? (key, operand) value <;> simp

end Json

/-! ## Elements -/

theorem Json.nat_inj {m n : Nat} : Json.nat m = Json.nat n ↔ m = n := by
  rw [nat, nat, Json.num.injEq, Json.Number.integer.injEq, Int.ofNat_inj]

/-- Limbs written as numbers are told apart. -/
theorem limbs_document_inj {xs ys : List UInt64} :
    Json.arr (xs.map fun limb => .nat limb.toNat) = .arr (ys.map fun limb => .nat limb.toNat) ↔
      xs = ys := by
  rw [Json.arr.injEq]
  refine List.map_inj_right fun x y h => UInt64.toNat_inj.mp (Json.nat_inj.mp h)

/-- A comparison written as a document is met by a value that compares so. -/
theorem Comparison.holds?_document (c : Comparison) {wanted stored : Json}
    (plain : ∀ fields, wanted ≠ .obj fields) :
    (c.document wanted).holds? (some stored) = some (c.test stored wanted) := by
  cases c with
  | equal =>
    have same : wanted.holds? (some stored) = some (some stored == some wanted) := by
      cases wanted with
      | obj fields => exact absurd rfl (plain fields)
      | _ => rfl
    rw [Comparison.document, same, Comparison.test]
    rfl
  | unequal =>
    show Json.holds? (.obj [("$ne", wanted)]) _ = _
    rw [Json.holds?_operator, Json.applies?_unequal, Comparison.test]
    by_cases same : stored = wanted <;> simp [same]

/-- **A compared component** of a written element, whose values are told apart in writing. -/
theorem Comparison.isMet?_document {α : Type} [DecidableEq α] (c : Comparison) {key : String}
    {element written wanted : Json} {a b : α} (there : element.get? key = some written)
    (same : written = wanted ↔ a = b) (plain : ∀ fields, wanted ≠ .obj fields)
    (free : Json.Connective.ofKey? key = none ∧ Json.isReserved key = false) :
    Json.isMet? (key, c.document wanted) element = some (c.test a b) := by
  rw [Json.isMet?_plain free.1 free.2, there, c.holds?_document plain]
  cases c <;> simp [Comparison.test, same]

/-- **An element match selects the arguments that are searched for.** -/
theorem ArgMatch.selects?_document (m : ArgMatch) (stored : SlotWord) :
    m.document.selects? stored.toJson = some (m.accepts stored) := by
  have limbs : Json.isMet? ("c", m.limbs.document (.arr (m.arg.limbs.map fun limb => .nat limb.toNat)))
      stored.toJson = some (m.limbs.test stored.limbs m.arg.limbs) :=
    m.limbs.isMet?_document rfl limbs_document_inj nofun ⟨rfl, rfl⟩
  have exponent : Json.isMet? ("e", m.exponent.document (.nat m.arg.exponent.toNat))
      stored.toJson = some (m.exponent.test stored.exponent m.arg.exponent) :=
    m.exponent.isMet?_document rfl (Json.nat_inj.trans UInt32.toNat_inj) nofun ⟨rfl, rfl⟩
  have slot : Json.isMet? ("index", m.slot.document (.nat m.arg.slot.toNat))
      stored.toJson = some (m.slot.test stored.slot m.arg.slot) :=
    m.slot.isMet?_document rfl (Json.nat_inj.trans UInt64.toNat_inj) nofun ⟨rfl, rfl⟩
  rw [ArgMatch.document_eq, Json.selects?, Json.allMet?, Json.allMet?, Json.allMet?, Json.allMet?,
    limbs, exponent, slot, ArgMatch.accepts]
  simp only [Option.bind_eq_bind, Option.bind_some, Option.pure_def, Bool.and_true, Bool.and_assoc,
    Bool.and_left_comm]

/-! ## Fields -/

/-- A query whose signature and compared values are in lower case. -/
structure LogQuery.InLowerCase (q : LogQuery) : Prop where
  signature : lower q.signature = q.signature
  values : ∀ c ∈ q.predicate.comparisons, lower c.2 = c.2

/-- A row whose signature and address are in lower case. -/
structure LogRow.InLowerCase (row : LogRow) : Prop where
  signature : lower row.signature = row.signature
  address : lower row.address = row.address

variable {row : LogRow}

theorem RowField.lower_read (h : row.InLowerCase) (f : RowField) :
    lower (f.read row) = f.read row := by
  cases f with
  | address => exact h.address
  | signature => exact h.signature

/-- **A field in lower case is compared by its text.** -/
theorem RowField.isMet?_toJson (h : row.InLowerCase) (f : RowField) {value : String}
    (lowered : lower value = value) :
    Json.isMet? (f.name, .str value) row.toJson = some (sameIgnoringCase (f.read row) value) := by
  have held : Json.isMet? (f.name, .str value) row.toJson =
      some (some (Json.str (f.read row)) == some (.str value)) := by
    cases f <;> rfl
  rw [held, sameIgnoringCase, f.lower_read h, lowered, Option.some.injEq, Bool.eq_iff_iff,
    beq_iff_eq, beq_iff_eq, Option.some.injEq, Json.str.injEq]

namespace Predicate

theorem applies?_search (m : ArgMatch) :
    Json.applies? ("$elemMatch", m.document) (some (.arr (row.args.map SlotWord.toJson))) =
      some (row.args.any m.accepts) := by
  have each : (row.args.map SlotWord.toJson).mapM (fun item => m.document.selects? item) =
      some (row.args.map m.accepts) := by
    induction row.args with
    | nil => rfl
    | cons a rest ih =>
      rw [List.map_cons, List.mapM_cons, m.selects?_document, ih]
      rfl
  rw [Json.applies?_element, each, Option.map_some, List.any_map]
  rfl

mutual

/-- **A rendered clause selects the rows that meet the predicate.** -/
theorem selects?_clause (h : row.InLowerCase) : ∀ p : Predicate,
    (∀ c ∈ p.comparisons, lower c.2 = c.2) →
    (clause p).selects? row.toJson = some (p.holds row)
  | .all [], _ => rfl
  | .any [], _ => rfl
  | .all (p :: rest), lowered => by
    have first := selects?_clause h p fun c hc => lowered c (List.mem_append_left _ hc)
    have others := answers?_clauses h rest fun c hc => lowered c (List.mem_append_right _ hc)
    show (Json.obj [("$and", .arr (clause p :: clauses rest))]).selects? _ = _
    rw [Json.selects?_connective rfl first others, holds_all, ← List.map_cons, Json.Connective.join,
      List.all_map]
    rfl
  | .any (p :: rest), lowered => by
    have first := selects?_clause h p fun c hc => lowered c (List.mem_append_left _ hc)
    have others := answers?_clauses h rest fun c hc => lowered c (List.mem_append_right _ hc)
    show (Json.obj [("$or", .arr (clause p :: clauses rest))]).selects? _ = _
    rw [Json.selects?_connective rfl first others, holds_any, ← List.map_cons, Json.Connective.join,
      List.any_map]
    rfl
  | .not inner, lowered => by
    rw [holds_not]
    by_cases leaf : ∃ m, inner = .arg m
    · -- A search is negated within its field.
      obtain ⟨m, rfl⟩ := leaf
      show (Json.obj [("args", .obj [("$not", .obj [("$elemMatch", m.document)])])]).selects? _ = _
      rw [Json.selects?_field, Json.isMet?_plain rfl rfl, Json.holds?_operator, Json.applies?_not]
      exact congrArg (Option.map (!·)) (applies?_search m)
    · rw [clause_not fun m hm => leaf ⟨m, hm⟩,
        Json.selects?_connective rfl (selects?_clause h inner lowered) rfl, Json.Connective.join]
      simp
  | .arg m, _ => by
    show (Json.obj [("args", .obj [("$elemMatch", m.document)])]).selects? _ = _
    rw [Json.selects?_field, Json.isMet?_plain rfl rfl, Json.holds?_operator]
    exact applies?_search m
  | .field f value, lowered => by
    show (Json.obj [(f.name, .str value)]).selects? _ = _
    rw [Json.selects?_field]
    exact f.isMet?_toJson h (lowered (f, value) (List.mem_singleton_self _))

theorem answers?_clauses (h : row.InLowerCase) : ∀ ps : List Predicate,
    (∀ c ∈ comparisonsOf ps, lower c.2 = c.2) →
    Json.answers? (clauses ps) row.toJson = some (ps.map (holds row))
  | [], _ => rfl
  | p :: rest, lowered => by
    have first := selects?_clause h p fun c hc => lowered c (List.mem_append_left _ hc)
    have others := answers?_clauses h rest fun c hc => lowered c (List.mem_append_right _ hc)
    rw [clauses, Json.answers?, first, others]
    rfl

end

theorem allMet?_topClause (h : row.InLowerCase) {p : Predicate}
    (lowered : ∀ c ∈ p.comparisons, lower c.2 = c.2) :
    Json.allMet? p.topClause row.toJson = some (p.holds row) := by
  have selected := selects?_clause h p lowered
  rcases topClause_cases p with shape | shape
  · rwa [shape, Json.selects?] at selected
  · rw [shape, ← Json.selects?, Json.selects?_connective rfl selected rfl, Json.Connective.join]
    simp

end Predicate

/-! ## Queries -/

namespace LogQuery

/-- A compiled query is in lower case. -/
theorem inLowerCase_of_compile {c : FilterCompiler} {filter : LogFilter} {q : LogQuery}
    (h : c.compile filter = .ok q) : q.InLowerCase := by
  obtain ⟨p, hp, -, rfl⟩ := FilterCompiler.compile_eq_ok.mp h
  exact ⟨c.schema.lower_signature, fun x hx => (FilterCompiler.compares_addresses filter hp x hx).2⟩

/-- **A store selects with a query document what the query selects,** for every query and row in
lower case. No list of the document is empty, and a compiled query, which is in lower case, names
the signature once. -/
theorem document_selects (q : LogQuery) :
    (q.InLowerCase → ∀ row : LogRow, row.InLowerCase →
      q.document.selects? row.toJson = some (q.selects row)) ∧
    q.document.areListsFilled = true ∧
    ∀ (c : FilterCompiler) (filter : LogFilter), c.compile filter = .ok q →
      q.InLowerCase ∧ q.document.occurrences "signature" = 1 := by
  refine ⟨?_, q.areListsFilled_document, ?_⟩
  · intro lowered row plain
    have event := RowField.isMet?_toJson plain .signature lowered.signature
    have met := Predicate.allMet?_topClause plain lowered.values
    rw [document_eq, Json.selects?, LogQuery.selects, Bool.and_comm]
    exact Json.allMet?_concat met event
  · intro c filter compiled
    refine ⟨inLowerCase_of_compile compiled, ?_⟩
    obtain ⟨p, hp, -, rfl⟩ := FilterCompiler.compile_eq_ok.mp compiled
    have none : p.comparisons.countP (·.1 == .signature) = 0 := by
      rw [List.countP_eq_zero]
      intro x hx
      rw [(FilterCompiler.compares_addresses filter hp x hx).1]
      decide
    rw [occurrences_document, none]

/-- The row of a transfer of seven to the account two. -/
def settled : LogRow where
  blockNumber := 4
  txIndex := 0
  logIndex := 1
  removed := false
  signature := EventSchema.transferTopic
  address := "0xc3"
  values := [EventSchema.transferTopic, "0x1", "0x2", "0x7"]
  dataValuesStart := some 3
  args := [⟨0, [1], 0⟩, ⟨0, [2], 1⟩, ⟨0, [7], 2⟩]

/-- A filter with a negated search, a negated list, and an address in mixed letter case. -/
def settledFilter : LogFilter :=
  .all [.not (.any [.arg "from" (.equals "0x9"), .all [.address "0xD4", .arg "to" (.differs "0x2")]]),
    .arg "value" (.noneOf ["0x5", "0x6"]), .address "0xC3"]

/-- A query whose lists are empty and nested in each other. -/
def hollow : LogQuery :=
  ⟨EventSchema.transferTopic, .not (.any [.any [], .not (.all []), .field .signature "0xab"])⟩

theorem documents_select_transfer :
    settled.InLowerCase ∧
    (∃ q, FilterCompiler.transfer.compile settledFilter = .ok q ∧
      q.document.selects? settled.toJson = some true ∧ q.document.occurrences "signature" = 1) ∧
    hollow.InLowerCase ∧ hollow.document.selects? settled.toJson = some true := by
  have plain : settled.InLowerCase := ⟨by decide +kernel, by decide +kernel⟩
  have lowered : hollow.InLowerCase := ⟨by decide +kernel, by decide +kernel⟩
  refine ⟨plain, ?_, lowered, ?_⟩
  · obtain ⟨q, hq⟩ : ∃ q, FilterCompiler.transfer.compile settledFilter = .ok q :=
      Fallible.exists_of_isOk (by decide +kernel)
    have compiled := (document_selects q).2.2 _ _ hq
    have selected : q.selects settled = true := by
      have all : (FilterCompiler.transfer.compile settledFilter).toOption.all
          (·.selects settled) = true := by decide +kernel
      rw [hq] at all
      exact all
    refine ⟨q, hq, ?_, compiled.2⟩
    rw [(document_selects q).1 compiled.1 settled plain, selected]
  · rw [(document_selects hollow).1 lowered settled plain]
    decide +kernel

end LogQuery

end TransferLedger
