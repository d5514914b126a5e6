/-
# TransferLedger.Proofs.Query.Outcome -- how compiling a filter ends

Compiling ends in one of four ways, and the filter alone tells in which. Its first fault is reported,
wherever it stands and whatever the parts around it come to. A filter without faults is refused if it
comes to false, gives the constant query if it comes to true, and gives a query with a condition in
every other case. The induction is on the filter; a part is described by its fault or, if it has
none, by what it comes to.
-/

import TransferLedger.Proofs.Query.Agreement
import TransferLedger.Proofs.Query.Normal

namespace TransferLedger

open TransferLedger.Fallible

/-! ## Declared names -/

theorem EventSchema.slotOf?_isSome (s : EventSchema) (name : String) :
    (s.slotOf? name).isSome = s.declares name := by
  unfold slotOf? declares
  cases place : s.arguments.findIdx? (·.name == name) with
  | none =>
    have absent : s.arguments.any (·.name == name) = false := by
      rw [List.any_eq_false]
      intro a ha
      rw [List.findIdx?_eq_none_iff.mp place a ha]
      decide
    rw [absent]
    rfl
  | some i =>
    obtain ⟨inside, found, -⟩ := List.findIdx?_eq_some_iff_getElem.mp place
    have present : s.arguments.any (·.name == name) = true :=
      List.any_eq_true.mpr ⟨s.arguments[i], List.getElem_mem inside, found⟩
    simp [present, List.getElem?_eq_getElem inside]

namespace FilterCompiler

/-! ## Parts -/

/-- **How compiling a part ends:** with its fault or, if it has none, with a normal form that is a
constant exactly if the part comes to one. -/
def Ends (r : Except FilterFailure Predicate) (fault : Option FilterFailure) (value : Option Bool) :
    Prop :=
  match fault with
  | some e => r = .error e
  | none => ∃ p, r = .ok p ∧ p.Normal ∧ p.verdict = value

/-- How compiling some parts ends: with the first of their faults or, if there is none, with a normal
form for each. -/
def AllEnd (r : Except FilterFailure (List Predicate)) (fault : Option FilterFailure)
    (values : List (Option Bool)) : Prop :=
  match fault with
  | some e => r = .error e
  | none => ∃ ps, r = .ok ps ∧ (∀ p ∈ ps, p.Normal) ∧ ps.map Predicate.verdict = values

variable {r : Except FilterFailure Predicate} {rs : Except FilterFailure (List Predicate)}
  {fault faults : Option FilterFailure} {value : Option Bool} {values : List (Option Bool)}

theorem Ends.negate (h : Ends r fault value) :
    Ends (r.map Predicate.negate) fault (ThreeValued.not value) := by
  cases fault with
  | some e => exact map_eq_error.mpr h
  | none =>
    obtain ⟨p, rfl, normal, rfl⟩ := h
    obtain ⟨built, verdict⟩ := Predicate.normal_negate normal
    exact ⟨p.negate, rfl, built, verdict⟩

theorem AllEnd.build (j : Joint) (h : AllEnd rs fault values) :
    Ends (rs.map j.build) fault (j.answer values) := by
  cases fault with
  | some e => exact map_eq_error.mpr h
  | none =>
    obtain ⟨ps, rfl, normal, rfl⟩ := h
    obtain ⟨built, verdict⟩ := Predicate.normal_build j normal
    exact ⟨j.build ps, rfl, built, verdict⟩

theorem allEnd_nil {f : α → Except FilterFailure Predicate} :
    AllEnd (([] : List α).mapM f) none [] :=
  ⟨[], rfl, nofun, rfl⟩

/-- A fault of the first part comes before those of the rest. -/
theorem allEnd_cons {f : α → Except FilterFailure Predicate} {x : α} {xs : List α}
    (first : Ends (f x) fault value) (rest : AllEnd (xs.mapM f) faults values) :
    AllEnd ((x :: xs).mapM f) (fault.or faults) (value :: values) := by
  rw [List.mapM_cons]
  cases fault with
  | some e =>
    have failed : f x = .error e := first
    rw [failed]
    rfl
  | none =>
    obtain ⟨p, hp, normal, rfl⟩ := first
    rw [hp]
    cases faults with
    | some e =>
      have failed : xs.mapM f = .error e := rest
      rw [failed]
      rfl
    | none =>
      obtain ⟨ps, hps, normals, rfl⟩ := rest
      rw [hps]
      exact ⟨p :: ps, rfl, List.forall_mem_cons.mpr ⟨normal, normals⟩, rfl⟩

theorem allEnd_mapM {f : α → Except FilterFailure Predicate} {fault : α → Option FilterFailure}
    {value : Option Bool} (each : ∀ x, Ends (f x) (fault x) value) (xs : List α) :
    AllEnd (xs.mapM f) (xs.findSome? fault) (xs.map fun _ => value) := by
  induction xs with
  | nil => exact allEnd_nil
  | cons x xs ih =>
    have split : (x :: xs).findSome? fault = (fault x).or (xs.findSome? fault) := by
      rw [List.findSome?_cons]
      cases fault x <;> rfl
    rw [split]
    exact allEnd_cons (each x) ih

/-! ## Leaves -/

/-- The fault of a value. -/
def valueFault? (name value : String) : Option FilterFailure :=
  if (Word.ofScalar? value).isNone then some (.malformedValue name value) else none

theorem findSome?_valueFault? (name : String) (values : List String) :
    values.findSome? (valueFault? name) =
      (values.find? fun value => (Word.ofScalar? value).isNone).map (.malformedValue name) := by
  induction values with
  | nil => rfl
  | cons v rest ih =>
    rw [List.findSome?_cons, List.find?_cons, valueFault?]
    cases (Word.ofScalar? v).isNone with
    | true => rfl
    | false => exact ih

theorem ends_search (name value : String) (slot : Nat) :
    Ends (search name slot value) (valueFault? name value) none := by
  unfold search encode valueFault?
  cases Word.ofScalar? value with
  | none => rfl
  | some w => exact ⟨_, rfl, .reduced (.arg _), rfl⟩

theorem ends_avoidance (c : FilterCompiler) (name value : String) (slot : Nat) :
    Ends (c.avoidance name slot value) (valueFault? name value) none := by
  unfold avoidance
  cases c.negation with
  | complement => exact (ends_search name value slot).negate
  | fieldWise =>
    unfold encode valueFault?
    cases Word.ofScalar? value with
    | none => rfl
    | some w => exact ⟨_, rfl, .reduced (.arg _), rfl⟩

/-- Values that are all unknown leave it open what a comparison with them comes to. -/
theorem answer_unknown (j : Joint) (value : String) (rest : List String) :
    j.answer ((value :: rest).map fun _ => none) = none := by
  apply j.eq_none_of_ne
  · intro decided
    simpa using j.answer_eq_decisive.mp decided
  · intro settled
    exact nomatch j.answer_eq_other.mp settled none List.mem_cons_self

theorem all_unknown (values : List String) :
    ThreeValued.all (values.map fun _ => none) = (Condition.noneOf values).fold := by
  cases values with
  | nil => rfl
  | cons value rest => exact answer_unknown .and value rest

theorem any_unknown (values : List String) :
    ThreeValued.any (values.map fun _ => none) = (Condition.oneOf values).fold := by
  cases values with
  | nil => rfl
  | cons value rest => exact answer_unknown .or value rest

/-- **How a comparison ends:** its name is looked up before its values are read. -/
theorem ends_comparison (c : FilterCompiler) (name : String) (asked : Condition) :
    Ends (c.comparison name asked) (c.schema.fault? (name, asked)) asked.fold := by
  have declared := c.schema.slotOf?_isSome name
  unfold comparison
  cases found : c.schema.slotOf? name with
  | none =>
    have fault : c.schema.fault? (name, asked) = some (.unknownArgument name) :=
      if_neg (by rw [← declared, found]; decide)
    rw [fault]
    rfl
  | some slot =>
    have fault : c.schema.fault? (name, asked) = asked.values.findSome? (valueFault? name) := by
      rw [findSome?_valueFault?]
      exact if_pos (by rw [← declared, found]; rfl)
    rw [fault]
    cases asked with
    | equals value =>
      rw [Condition.values, List.findSome?_singleton]
      exact ends_search name value slot
    | differs value =>
      rw [Condition.values, List.findSome?_singleton]
      exact ends_avoidance c name value slot
    | oneOf values =>
      rw [← any_unknown]
      exact (allEnd_mapM (ends_search name · slot) values).build .or
    | noneOf values =>
      rw [← all_unknown]
      exact (allEnd_mapM (ends_avoidance c name · slot) values).build .and

/-! ## Trees -/

theorem foldAll_eq (filters : List LogFilter) :
    LogFilter.foldAll filters = ThreeValued.all (filters.map LogFilter.fold) := by
  induction filters with
  | nil => rfl
  | cons filter rest ih =>
    rw [LogFilter.foldAll, ih]
    rfl

theorem foldAny_eq (filters : List LogFilter) :
    LogFilter.foldAny filters = ThreeValued.any (filters.map LogFilter.fold) := by
  induction filters with
  | nil => rfl
  | cons filter rest ih =>
    rw [LogFilter.foldAny, ih]
    rfl

mutual

/-- **How a filter ends,** by induction on the filter. -/
theorem ends_predicate (c : FilterCompiler) :
    ∀ filter : LogFilter, Ends (c.predicate filter) (filter.fault? c.schema) filter.fold
  | .arg name asked => by
    rw [LogFilter.fault?, LogFilter.leaves, List.findSome?_singleton]
    exact ends_comparison c name asked
  | .all parts => by
    rw [predicate, LogFilter.fold, foldAll_eq, predicates_eq_mapM]
    exact (allEnd_predicates c parts).build .and
  | .any parts => by
    rw [predicate, LogFilter.fold, foldAny_eq, predicates_eq_mapM]
    exact (allEnd_predicates c parts).build .or
  | .not inner => (ends_predicate c inner).negate
  | .address value => ⟨_, rfl, .reduced (.field .address (Text.lower value)), rfl⟩

theorem allEnd_predicates (c : FilterCompiler) : ∀ filters : List LogFilter,
    AllEnd (filters.mapM c.predicate) ((LogFilter.leavesOf filters).findSome? c.schema.fault?)
      (filters.map LogFilter.fold)
  | [] => allEnd_nil
  | filter :: rest => by
    rw [LogFilter.leavesOf, List.findSome?_append]
    exact allEnd_cons (ends_predicate c filter) (allEnd_predicates c rest)

end

/-! ## Queries -/

/-- **How compiling ends.** A filter with a fault anywhere is refused for its first one. Any other is
refused as selecting nothing exactly if it comes to false; it gives the query for all logs of the
event exactly if it comes to true, and in every other case a query that is neither. -/
theorem compile_ends (c : FilterCompiler) (filter : LogFilter) :
    match filter.fault? c.schema, filter.fold with
    | some e, _ => c.compile filter = .error e
    | none, some false => c.compile filter = .error .matchesNothing
    | none, some true => c.compile filter = .ok ⟨c.schema.signature, .always⟩
    | none, none => ∃ p, c.compile filter = .ok ⟨c.schema.signature, p⟩ ∧ p ≠ .always := by
  have ends := ends_predicate c filter
  cases fault : filter.fault? c.schema with
  | some e =>
    rw [fault] at ends
    show c.compile filter = .error e
    unfold compile
    rw [bind_eq_error]
    exact .inl ends
  | none =>
    rw [fault] at ends
    obtain ⟨p, built, -, verdict⟩ := ends
    cases fold : filter.fold with
    | some b =>
      rw [fold] at verdict
      cases b with
      | false =>
        rw [Predicate.verdict_eq_false] at verdict
        exact compile_eq_matchesNothing.mpr ⟨p, built, Predicate.isNever_iff.mpr verdict⟩
      | true =>
        rw [Predicate.verdict_eq_true] at verdict
        exact compile_eq_ok.mpr ⟨p, built, by rw [verdict]; rfl, by rw [verdict]⟩
    | none =>
      rw [fold] at verdict
      have selective : p ≠ .always := by
        intro same
        exact nomatch verdict.symm.trans (Predicate.verdict_eq_true.mpr same)
      have satisfiable : p.isNever = false := by
        rw [← Bool.not_eq_true, Predicate.isNever_iff]
        intro same
        exact nomatch verdict.symm.trans (Predicate.verdict_eq_false.mpr same)
      exact ⟨p, compile_eq_ok.mpr ⟨p, built, satisfiable, rfl⟩, selective⟩

end FilterCompiler

end TransferLedger
