/-
# TransferLedger.Proofs.Query.Rendering -- the shape of query documents

No connective of a rendered query stands over an empty list, however the query was built, and the
key of the signature occurs once for the query itself and once for each comparison of a signature in
its predicate. A compiled predicate compares addresses only.
-/

import TransferLedger.Proofs.Fallible
import TransferLedger.Proofs.Query.Building
import TransferLedger.Query.Compile
import TransferLedger.Query.Document
import TransferLedger.Query.Selector

namespace TransferLedger

open TransferLedger.Text TransferLedger.Fallible

/-! ## Compared fields -/

namespace Predicate

mutual

/-- **The fields that a predicate compares,** with the values they are compared with. -/
def comparisons : Predicate → List (RowField × String)
  | .all parts => comparisonsOf parts
  | .any parts => comparisonsOf parts
  | .not inner => comparisons inner
  | .arg _ => []
  | .field f value => [(f, value)]
termination_by structural p => p

/-- The fields that some predicates compare. -/
def comparisonsOf : List Predicate → List (RowField × String)
  | [] => []
  | p :: rest => comparisons p ++ comparisonsOf rest
termination_by structural ps => ps

end

theorem comparisonsOf_append (ps qs : List Predicate) :
    comparisonsOf (ps ++ qs) = comparisonsOf ps ++ comparisonsOf qs := by
  induction ps with
  | nil => rfl
  | cons p rest ih => rw [List.cons_append, comparisonsOf, comparisonsOf, ih, List.append_assoc]

theorem comparisonsOf_singleton (p : Predicate) : comparisonsOf [p] = p.comparisons :=
  List.append_nil _

theorem comparisons_constant (b : Bool) : (constant b).comparisons = [] := by cases b <;> rfl

theorem comparisons_node (j : Joint) (ps : List Predicate) :
    (j.node ps).comparisons = comparisonsOf ps := by
  cases j <;> rfl

/-- Splicing keeps all comparisons. -/
theorem comparisonsOf_contributed (j : Joint) (ps : List Predicate) :
    comparisonsOf (ps.flatMap j.contributed) = comparisonsOf ps := by
  induction ps with
  | nil => rfl
  | cons p rest ih =>
    have own : comparisonsOf (j.contributed p) = p.comparisons := by
      rcases j.contributed_cases p with ⟨parts, rfl, own⟩ | ⟨-, own⟩
      · rw [own, comparisons_node]
      · rw [own, comparisonsOf_singleton]
    rw [List.flatMap_cons, comparisonsOf_append, own, ih, comparisonsOf]

/-- Joining parts drops comparisons and adds none. -/
theorem comparisons_build (j : Joint) (ps : List Predicate) :
    (j.build ps).comparisons ⊆ comparisonsOf ps := by
  have joined := j.joins_build ps
  generalize j.build ps = built at joined ⊢
  cases joined with
  | absorbed =>
    rw [comparisons_constant]
    exact List.nil_subset _
  | single _ alone =>
    rw [← comparisonsOf_contributed j, alone, comparisonsOf_singleton]
    exact List.Subset.refl _
  | list =>
    rw [comparisons_node, comparisonsOf_contributed]
    exact List.Subset.refl _

theorem comparisons_negate (p : Predicate) : (negate p).comparisons = p.comparisons := by
  unfold negate
  split
  all_goals rfl

end Predicate

/-! ## Compiled predicates -/

namespace FilterCompiler

variable {c : FilterCompiler}

/-- A search for an argument compares no field, negated or not. -/
theorem comparisons_of_search {name value : String} {slot : Nat} {p : Predicate}
    (h : search name slot value = .ok p) : p.comparisons = [] := by
  obtain ⟨arg, -, rfl⟩ := map_eq_ok.mp h
  rfl

theorem comparisons_of_avoidance {name value : String} {slot : Nat} {p : Predicate}
    (h : c.avoidance name slot value = .ok p) : p.comparisons = [] := by
  unfold avoidance at h
  cases hn : c.negation with
  | complement =>
    rw [hn] at h
    obtain ⟨q, hq, rfl⟩ := map_eq_ok.mp h
    rw [Predicate.comparisons_negate, comparisons_of_search hq]
  | fieldWise =>
    rw [hn] at h
    obtain ⟨arg, -, rfl⟩ := map_eq_ok.mp h
    rfl

theorem comparisonsOf_of_mapM {f : String → Except FilterFailure Predicate} {values : List String}
    {ps : List Predicate} (each : ∀ {value p}, f value = .ok p → p.comparisons = [])
    (h : values.mapM f = .ok ps) : Predicate.comparisonsOf ps = [] := by
  induction values generalizing ps with
  | nil =>
    cases h
    rfl
  | cons value rest ih =>
    obtain ⟨p, more, hp, hmore, rfl⟩ := mapM_cons_eq_ok.mp h
    rw [Predicate.comparisonsOf, each hp, ih hmore]
    rfl

theorem comparisons_of_comparison {name : String} {asked : Condition} {p : Predicate}
    (h : c.comparison name asked = .ok p) : p.comparisons = [] := by
  unfold comparison at h
  cases hs : c.schema.slotOf? name with
  | none =>
    rw [hs] at h
    cases h
  | some slot =>
    rw [hs] at h
    cases asked with
    | equals value => exact comparisons_of_search h
    | differs value => exact comparisons_of_avoidance h
    | oneOf values =>
      obtain ⟨ps, hps, rfl⟩ := map_eq_ok.mp h
      have none := comparisonsOf_of_mapM comparisons_of_search hps
      exact List.subset_nil.mp (none ▸ Predicate.comparisons_build .or ps)
    | noneOf values =>
      obtain ⟨ps, hps, rfl⟩ := map_eq_ok.mp h
      have none := comparisonsOf_of_mapM comparisons_of_avoidance hps
      exact List.subset_nil.mp (none ▸ Predicate.comparisons_build .and ps)

mutual

/-- **A compiled predicate compares addresses only,** and these in lower case. -/
theorem compares_addresses : ∀ (filter : LogFilter) {p : Predicate}, c.predicate filter = .ok p →
    ∀ x ∈ p.comparisons, x.1 = .address ∧ lower x.2 = x.2
  | .arg name asked, p, h => by
    rw [predicate] at h
    simp [comparisons_of_comparison h]
  | .all parts, p, h => by
    rw [predicate] at h
    obtain ⟨ps, hps, rfl⟩ := map_eq_ok.mp h
    exact fun x hx => all_compare_addresses parts hps x (Predicate.comparisons_build .and ps hx)
  | .any parts, p, h => by
    rw [predicate] at h
    obtain ⟨ps, hps, rfl⟩ := map_eq_ok.mp h
    exact fun x hx => all_compare_addresses parts hps x (Predicate.comparisons_build .or ps hx)
  | .not inner, p, h => by
    rw [predicate] at h
    obtain ⟨q, hq, rfl⟩ := map_eq_ok.mp h
    rw [Predicate.comparisons_negate]
    exact compares_addresses inner hq
  | .address value, p, h => by
    cases h
    simp [Predicate.comparisons]

theorem all_compare_addresses : ∀ (filters : List LogFilter) {ps : List Predicate},
    c.predicates filters = .ok ps →
      ∀ x ∈ Predicate.comparisonsOf ps, x.1 = .address ∧ lower x.2 = x.2
  | [], ps, h => by
    cases h
    simp [Predicate.comparisonsOf]
  | filter :: rest, ps, h => by
    rw [predicates] at h
    obtain ⟨p, hp, h⟩ := bind_eq_ok.mp h
    obtain ⟨more, hmore, made⟩ := bind_eq_ok.mp h
    cases made
    intro x hx
    rcases List.mem_append.mp hx with first | later
    · exact compares_addresses filter hp x first
    · exact all_compare_addresses rest hmore x later

end

end FilterCompiler

/-! ## Single fields -/

namespace Json

theorem areListsFilled_field (key : String) (value : Json) :
    (Json.obj [(key, value)]).areListsFilled = isFieldFilled (key, value) := by
  rw [areListsFilled, areFieldsFilled, areFieldsFilled, Bool.and_true]

/-- A field whose key is no connective is filled if its value is. -/
theorem isFieldFilled_plain {key : String} (h : Connective.ofKey? key = none) (value : Json) :
    isFieldFilled (key, value) = value.areListsFilled := by
  rw [isFieldFilled, h, Option.isSome_none, Bool.false_and, Bool.not_false, Bool.true_and]

/-- A field with clauses is filled if these are. -/
theorem isFieldFilled_clauses (key : String) (clause : Json) (rest : List Json) :
    isFieldFilled (key, .arr (clause :: rest)) = areItemsFilled (clause :: rest) := by
  have filled : (Json.arr (clause :: rest) == .arr []) = false := by simp
  rw [isFieldFilled, filled, Bool.and_false, Bool.not_false, Bool.true_and, areListsFilled]

theorem occurrences_field {key name : String} (h : name ≠ key) (value : Json) :
    (Json.obj [(name, value)]).occurrences key = value.occurrences key := by
  rw [occurrences, occurrencesInFields, occurrencesInFields, occurrencesInField, if_neg h,
    Nat.zero_add, Nat.add_zero]

end Json

/-! ## Rendered searches -/

theorem ArgMatch.document_eq (m : ArgMatch) :
    m.document = .obj [("c", m.limbs.document (.arr (m.arg.limbs.map fun limb => .nat limb.toNat))),
      ("e", m.exponent.document (.nat m.arg.exponent.toNat)),
      ("index", m.slot.document (.nat m.arg.slot.toNat))] := by
  rfl

/-- Numbers hold neither connectives nor keys. -/
theorem areItemsFilled_limbs (limbs : List UInt64) :
    Json.areItemsFilled (limbs.map fun limb => .nat limb.toNat) = true := by
  induction limbs with
  | nil => rfl
  | cons limb rest ih =>
    rw [List.map_cons, Json.areItemsFilled, ih]
    rfl

theorem occurrencesInItems_limbs (key : String) (limbs : List UInt64) :
    Json.occurrencesInItems key (limbs.map fun limb => .nat limb.toNat) = 0 := by
  induction limbs with
  | nil => rfl
  | cons limb rest ih =>
    rw [List.map_cons, Json.occurrencesInItems, ih]
    rfl

theorem Comparison.areListsFilled_document (c : Comparison) (value : Json) :
    (c.document value).areListsFilled = value.areListsFilled := by
  cases c with
  | equal => rfl
  | unequal => exact (Json.areListsFilled_field "$ne" value).trans (Json.isFieldFilled_plain rfl value)

theorem Comparison.occurrences_document {key : String} (h : key ≠ "$ne") (c : Comparison)
    (value : Json) : (c.document value).occurrences key = value.occurrences key := by
  cases c with
  | equal => rfl
  | unequal => exact Json.occurrences_field h.symm value

theorem ArgMatch.areListsFilled_document (m : ArgMatch) : m.document.areListsFilled = true := by
  rw [ArgMatch.document_eq, Json.areListsFilled, Json.areFieldsFilled, Json.areFieldsFilled,
    Json.areFieldsFilled, Json.areFieldsFilled, Json.isFieldFilled_plain rfl,
    Json.isFieldFilled_plain rfl, Json.isFieldFilled_plain rfl,
    Comparison.areListsFilled_document, Comparison.areListsFilled_document,
    Comparison.areListsFilled_document, Json.areListsFilled, areItemsFilled_limbs]
  rfl

theorem ArgMatch.occurrences_document (m : ArgMatch) :
    m.document.occurrences "signature" = 0 := by
  have other : "signature" ≠ "$ne" := by decide
  rw [ArgMatch.document_eq, Json.occurrences, Json.occurrencesInFields, Json.occurrencesInFields,
    Json.occurrencesInFields, Json.occurrencesInFields, Json.occurrencesInField,
    Json.occurrencesInField, Json.occurrencesInField, Comparison.occurrences_document other,
    Comparison.occurrences_document other, Comparison.occurrences_document other,
    Json.occurrences, occurrencesInItems_limbs]
  rfl

/-! ## Rendered predicates -/

namespace Predicate

theorem clause_not {inner : Predicate} (h : ∀ m, inner ≠ .arg m) :
    clause (.not inner) = .obj [("$nor", .arr [clause inner])] := by
  cases inner with
  | arg m => exact absurd rfl (h m)
  | _ => rfl

mutual

/-- **No connective of a clause stands over an empty list.** -/
theorem areListsFilled_clause : ∀ p : Predicate, (clause p).areListsFilled = true
  -- a connective over nothing is not rendered as one
  | .all [] => rfl
  | .any [] => rfl
  | .all (p :: rest) => by
    show (Json.obj [("$and", .arr (clause p :: clauses rest))]).areListsFilled = true
    rw [Json.areListsFilled_field, Json.isFieldFilled_clauses]
    exact areItemsFilled_clauses (p :: rest)
  | .any (p :: rest) => by
    show (Json.obj [("$or", .arr (clause p :: clauses rest))]).areListsFilled = true
    rw [Json.areListsFilled_field, Json.isFieldFilled_clauses]
    exact areItemsFilled_clauses (p :: rest)
  | .not inner => by
    -- a search is negated in its own field, and anything else by a list of one
    by_cases leaf : ∃ m, inner = .arg m
    · obtain ⟨m, rfl⟩ := leaf
      show (Json.obj [("args", .obj [("$not", .obj [("$elemMatch", m.document)])])]).areListsFilled = _
      rw [Json.areListsFilled_field, Json.isFieldFilled_plain rfl, Json.areListsFilled_field,
        Json.isFieldFilled_plain rfl, Json.areListsFilled_field, Json.isFieldFilled_plain rfl,
        m.areListsFilled_document]
    · rw [clause_not fun m hm => leaf ⟨m, hm⟩, Json.areListsFilled_field,
        Json.isFieldFilled_clauses, Json.areItemsFilled, areListsFilled_clause inner]
      rfl
  | .arg m => by
    show (Json.obj [("args", .obj [("$elemMatch", m.document)])]).areListsFilled = true
    rw [Json.areListsFilled_field, Json.isFieldFilled_plain rfl, Json.areListsFilled_field,
      Json.isFieldFilled_plain rfl, m.areListsFilled_document]
  | .field f value => by
    cases f <;> rfl

theorem areItemsFilled_clauses : ∀ ps : List Predicate, Json.areItemsFilled (clauses ps) = true
  | [] => rfl
  | p :: rest => by
    rw [clauses, Json.areItemsFilled, areListsFilled_clause p, areItemsFilled_clauses rest]
    rfl

end

mutual

/-- **The key of the signature occurs in a clause** once for each comparison of a signature. -/
theorem occurrences_clause : ∀ p : Predicate, (clause p).occurrences "signature" =
    p.comparisons.countP (·.1 == .signature)
  | .all [] => rfl
  | .any [] => rfl
  | .all (p :: rest) => by
    show (Json.obj [("$and", .arr (clause p :: clauses rest))]).occurrences "signature" = _
    rw [Json.occurrences_field (by decide)]
    exact occurrencesInItems_clauses (p :: rest)
  | .any (p :: rest) => by
    show (Json.obj [("$or", .arr (clause p :: clauses rest))]).occurrences "signature" = _
    rw [Json.occurrences_field (by decide)]
    exact occurrencesInItems_clauses (p :: rest)
  | .not inner => by
    by_cases leaf : ∃ m, inner = .arg m
    · obtain ⟨m, rfl⟩ := leaf
      show (Json.obj [("args", .obj [("$not", .obj [("$elemMatch", m.document)])])]).occurrences
        "signature" = _
      rw [Json.occurrences_field (by decide), Json.occurrences_field (by decide),
        Json.occurrences_field (by decide), m.occurrences_document]
      rfl
    · rw [clause_not fun m hm => leaf ⟨m, hm⟩, Json.occurrences_field (by decide),
        Json.occurrences, Json.occurrencesInItems, occurrences_clause inner]
      rfl
  | .arg m => by
    show (Json.obj [("args", .obj [("$elemMatch", m.document)])]).occurrences "signature" = _
    rw [Json.occurrences_field (by decide), Json.occurrences_field (by decide),
      m.occurrences_document]
    rfl
  | .field f value => by
    cases f <;> rfl

theorem occurrencesInItems_clauses : ∀ ps : List Predicate,
    Json.occurrencesInItems "signature" (clauses ps) =
      (comparisonsOf ps).countP (·.1 == .signature)
  | [] => rfl
  | p :: rest => by
    rw [clauses, Json.occurrencesInItems, occurrences_clause p, occurrencesInItems_clauses rest,
      comparisonsOf, List.countP_append]

end

/-! ## Query documents -/

/-- What stands next to the signature is a clause, or a list of this clause alone. -/
theorem topClause_cases (p : Predicate) :
    clause p = .obj (topClause p) ∨ topClause p = [("$and", .arr [clause p])] := by
  cases p with
  | all parts => exact .inl (by cases parts <;> rfl)
  | any parts => exact .inl (by cases parts <;> rfl)
  | not => exact .inr rfl
  | arg => exact .inr rfl
  | field => exact .inr rfl

theorem areFieldsFilled_topClause (p : Predicate) :
    Json.areFieldsFilled p.topClause = true := by
  have filled := areListsFilled_clause p
  rcases topClause_cases p with shape | shape
  · rwa [shape] at filled
  · rw [shape, Json.areFieldsFilled, Json.isFieldFilled_clauses, Json.areItemsFilled, filled]
    rfl

theorem occurrences_topClause (p : Predicate) :
    Json.occurrencesInFields "signature" p.topClause =
      p.comparisons.countP (·.1 == .signature) := by
  have counted := occurrences_clause p
  rcases topClause_cases p with shape | shape
  · rwa [shape] at counted
  · rw [shape, ← counted]
    show (Json.obj [("$and", .arr [clause p])]).occurrences "signature" = _
    rw [Json.occurrences_field (by decide)]
    rfl

end Predicate

namespace LogQuery

/-- A document is what stands next to the signature, and the signature. -/
theorem document_eq (q : LogQuery) :
    q.document = .obj (q.predicate.topClause ++ [("signature", .str q.signature)]) := by
  obtain ⟨signature, predicate⟩ := q
  cases predicate with
  | all parts => cases parts <;> rfl
  | any parts => cases parts <;> rfl
  | _ => rfl

/-- **No connective of a query document stands over an empty list.** -/
theorem areListsFilled_document (q : LogQuery) : q.document.areListsFilled = true := by
  have append : ∀ xs ys : List (String × Json),
      Json.areFieldsFilled (xs ++ ys) = (Json.areFieldsFilled xs && Json.areFieldsFilled ys) := by
    intro xs ys
    induction xs with
    | nil => rfl
    | cons x rest ih =>
      rw [List.cons_append, Json.areFieldsFilled, Json.areFieldsFilled, ih, Bool.and_assoc]
  rw [document_eq, Json.areListsFilled, append, Predicate.areFieldsFilled_topClause]
  rfl

/-- **The key of the signature occurs once more** than signatures are compared. -/
theorem occurrences_document (q : LogQuery) : q.document.occurrences "signature" =
    q.predicate.comparisons.countP (·.1 == .signature) + 1 := by
  have append : ∀ xs ys : List (String × Json), Json.occurrencesInFields "signature" (xs ++ ys) =
      Json.occurrencesInFields "signature" xs + Json.occurrencesInFields "signature" ys := by
    intro xs ys
    induction xs with
    | nil => rw [List.nil_append, Json.occurrencesInFields, Nat.zero_add]
    | cons x rest ih =>
      rw [List.cons_append, Json.occurrencesInFields, Json.occurrencesInFields, ih, Nat.add_assoc]
  rw [document_eq, Json.occurrences, append, Predicate.occurrences_topClause]
  rfl

end LogQuery

end TransferLedger
