/-
# TransferLedger.Proofs.Query.Rebuilding -- normal forms are what the constructors build

Every predicate that a filter compiles to is in normal form, since the constructors lead from normal
forms to normal forms and the leaves are such. Building a predicate anew, from its leaves upwards with
the constructors, gives a normal form whatever the predicate was, and the normal forms are exactly the
predicates that this leaves as they are. What a predicate asks of a row stays the same, for one
constructor over any parts as for a predicate built anew throughout.
-/

import TransferLedger.Proofs.Query.Outcome

namespace TransferLedger

open TransferLedger.Text

namespace Predicate

/-! ## Building anew -/

mutual

/-- **A predicate built anew** from its leaves upwards. -/
def rebuild : Predicate → Predicate
  | .all parts => conj (rebuildAll parts)
  | .any parts => disj (rebuildAll parts)
  | .not inner => negate (rebuild inner)
  | .arg search => .arg search
  | .field f value => .field f value
termination_by structural p => p

/-- Some predicates built anew. -/
def rebuildAll : List Predicate → List Predicate
  | [] => []
  | p :: rest => rebuild p :: rebuildAll rest
termination_by structural ps => ps

end

theorem rebuildAll_eq_map (ps : List Predicate) : rebuildAll ps = ps.map rebuild := by
  induction ps with
  | nil => rfl
  | cons p rest ih => rw [rebuildAll, ih, List.map_cons]

mutual

/-- What is built anew is in normal form, by induction on the predicate. -/
theorem normal_rebuild : ∀ p : Predicate, Normal (rebuild p)
  | .all parts => (normal_conj (normal_rebuildAll parts)).1
  | .any parts => (normal_disj (normal_rebuildAll parts)).1
  | .not inner => (normal_negate (normal_rebuild inner)).1
  | .arg search => .reduced (.arg search)
  | .field f value => .reduced (.field f value)

theorem normal_rebuildAll : ∀ ps : List Predicate, ∀ p ∈ rebuildAll ps, Normal p
  | [] => nofun
  | p :: rest => List.forall_mem_cons.mpr ⟨normal_rebuild p, normal_rebuildAll rest⟩

end

/-! ## Normal forms stay as they are -/

variable {ps : List Predicate}

/-- Parts that each contribute themselves are spliced in as they are. -/
theorem flatMap_eq_self {contribute : Predicate → List Predicate}
    (own : ∀ p ∈ ps, contribute p = [p]) : ps.flatMap contribute = ps := by
  rw [List.flatMap_congr own, List.flatMap_singleton']

/-- A list without constants is built from its parts. -/
theorem build_of_reduced (j : Joint) (h : Reduced (j.node ps)) : j.build ps = j.node ps := by
  obtain ⟨several, each, flat⟩ := reduced_node.mp h
  have spliced : ps.flatMap j.contributed = ps :=
    flatMap_eq_self fun p hp => j.contributed_of_ne fun inner same => flat inner (same ▸ hp)
  have joined := j.joins_build ps
  generalize j.build ps = built at joined ⊢
  cases joined with
  | absorbed hit => exact absurd (each _ hit) (not_reduced_constant _)
  | single _ alone =>
    -- A single part would be unwrapped, but there are several.
    rw [← spliced, alone] at several
    exact absurd several (by simp)
  | list => rw [spliced]

/-- A predicate without constants is built from its leaves, by induction on why it is one. -/
theorem rebuild_of_reduced {p : Predicate} (h : Reduced p) : rebuild p = p := by
  have map_self : ∀ {parts : List Predicate}, (∀ q ∈ parts, rebuild q = q) →
      rebuildAll parts = parts := fun same => by
    rw [rebuildAll_eq_map, List.map_congr_left same, List.map_id']
  induction h with
  | all several each flat ih =>
    rw [rebuild, map_self ih]
    exact build_of_reduced .and (.all several each flat)
  | any several each flat ih =>
    rw [rebuild, map_self ih]
    exact build_of_reduced .or (.any several each flat)
  | not within single ih => rw [rebuild, ih, negate_of_reduced within single]
  | arg search => rfl
  | field name value => rfl

/-- **The normal forms are the predicates that building anew leaves as they are.** -/
theorem normal_iff_rebuild {p : Predicate} : Normal p ↔ rebuild p = p := by
  constructor
  · intro h
    cases h with
    | always => rfl
    | never => rfl
    | reduced r => exact rebuild_of_reduced r
  · intro same
    exact same ▸ normal_rebuild p

/-! ## The meaning stays -/

section Meaning

variable (row : LogRow)

mutual

/-- **What is built anew asks the same of a row,** by induction on the predicate: the constructors
mean over any parts what the plain nodes mean over them, also where they absorb or unwrap. -/
theorem holds_rebuild : ∀ p : Predicate, holds row (rebuild p) = holds row p
  | .all parts => by
    show holds row (conj (rebuildAll parts)) = holds row (.all parts)
    rw [holds_conj, holds_all, (holds_rebuildAll parts).1]
  | .any parts => by
    show holds row (disj (rebuildAll parts)) = holds row (.any parts)
    rw [holds_disj, holds_any, (holds_rebuildAll parts).2]
  | .not inner => by
    show holds row (negate (rebuild inner)) = holds row (.not inner)
    rw [holds_negate, holds_not, holds_rebuild inner]
  | .arg _ => rfl
  | .field _ _ => rfl

theorem holds_rebuildAll : ∀ ps : List Predicate,
    (rebuildAll ps).all (holds row) = ps.all (holds row) ∧
      (rebuildAll ps).any (holds row) = ps.any (holds row)
  | [] => ⟨rfl, rfl⟩
  | p :: rest => by
    obtain ⟨allRest, anyRest⟩ := holds_rebuildAll rest
    constructor
    · rw [rebuildAll, List.all_cons, List.all_cons, holds_rebuild p, allRest]
    · rw [rebuildAll, List.any_cons, List.any_cons, holds_rebuild p, anyRest]

end

end Meaning

end Predicate

/-! ## Built queries -/

/-- **The constructors keep the meaning.** For every signature, every row and parts of any shape: the
conjunction selects the rows of the event that meet all parts, the disjunction those that meet one of
them, and the negation those that do not meet the predicate. So building a predicate anew with them,
at every depth, selects the rows that it selected before. -/
theorem LogQuery.constructors_keep_meaning (signature : String) (row : LogRow) :
    (∀ parts : List Predicate, selects ⟨signature, .conj parts⟩ row =
        (sameIgnoringCase row.signature signature && parts.all fun p => p.holds row)) ∧
      (∀ parts : List Predicate, selects ⟨signature, .disj parts⟩ row =
        (sameIgnoringCase row.signature signature && parts.any fun p => p.holds row)) ∧
      (∀ p : Predicate, selects ⟨signature, p.negate⟩ row =
        (sameIgnoringCase row.signature signature && !p.holds row)) ∧
      ∀ p : Predicate, selects ⟨signature, p.rebuild⟩ row = selects ⟨signature, p⟩ row := by
  refine ⟨fun parts => ?_, fun parts => ?_, fun p => ?_, fun p => ?_⟩
  · rw [selects, Predicate.holds_conj]
  · rw [selects, Predicate.holds_disj]
  · rw [selects, Predicate.holds_negate]
  · rw [selects, selects, Predicate.holds_rebuild]

/-! ## Compiled predicates -/

namespace FilterCompiler

theorem normal_of_predicate {c : FilterCompiler} {filter : LogFilter} {p : Predicate}
    (h : c.predicate filter = .ok p) : p.Normal := by
  have ends := ends_predicate c filter
  rw [h] at ends
  cases fault : filter.fault? c.schema with
  | some e =>
    rw [fault] at ends
    exact nomatch ends
  | none =>
    rw [fault] at ends
    obtain ⟨q, same, normal, -⟩ := ends
    cases same
    exact normal

/-- **Predicates are kept in normal form.** A filter that compiles gives the constant `always` or a
predicate without constants. The constructors lead from normal forms, constants among them, to normal
forms. And the normal forms are the predicates that building anew leaves unchanged. -/
theorem predicates_are_normal :
    (∀ (c : FilterCompiler) (filter : LogFilter) (q : LogQuery), c.compile filter = .ok q →
      q.predicate = .always ∨ q.predicate.Reduced) ∧
      (∀ ps : List Predicate, (∀ p ∈ ps, p.Normal) →
        (Predicate.conj ps).Normal ∧ (Predicate.disj ps).Normal) ∧
      (∀ p : Predicate, p.Normal → p.negate.Normal) ∧
      ∀ p : Predicate, p.Normal ↔ p.rebuild = p := by
  refine ⟨?_, fun ps h => ?_, fun p h => (Predicate.normal_negate h).1,
    fun p => Predicate.normal_iff_rebuild⟩
  · intro c filter q compiled
    obtain ⟨p, built, satisfiable, rfl⟩ := compile_eq_ok.mp compiled
    cases normal_of_predicate built with
    | always => exact .inl rfl
    | never => exact nomatch satisfiable
    | reduced r => exact .inr r
  · exact ⟨(Predicate.normal_conj h).1, (Predicate.normal_disj h).1⟩

/-- A filter with parts that are absorbed, spliced, unwrapped and cancelled. -/
def tangledFilter : LogFilter :=
  .not (.any [.arg "to" (.oneOf []),
    .not (.all [.arg "from" (.noneOf ["0x1", "0x2"]), .any [.not (.not (.address "0xT"))],
      .all [.arg "value" (.noneOf [])]])])

theorem tangled_query_is_normal :
    ∃ q, compile .transfer tangledFilter = .ok q ∧ q.predicate.Reduced ∧
      q.predicate.rebuild = q.predicate ∧ q.predicate.negate.Normal ∧
      (Predicate.conj [.always, q.predicate, q.predicate.negate]).Normal ∧
      (Predicate.disj [.never, q.predicate, q.predicate.negate]).Normal := by
  obtain ⟨q, compiled⟩ : ∃ q, compile .transfer tangledFilter = .ok q :=
    Fallible.exists_of_isOk (by decide +kernel)
  obtain ⟨built, joined, negated, unchanged⟩ := predicates_are_normal
  have selective : q.predicate.isAlways = false := by
    have each : (compile .transfer tangledFilter).toOption.all (!·.predicate.isAlways) = true := by
      decide +kernel
    rw [compiled] at each
    simpa [Except.toOption] using each
  have reduced : q.predicate.Reduced := (built _ _ _ compiled).resolve_left fun same => by
    rw [same] at selective
    exact nomatch selective
  have normal : q.predicate.Normal := .reduced reduced
  have parts : ∀ p ∈ [q.predicate, q.predicate.negate], p.Normal :=
    List.forall_mem_cons.mpr ⟨normal, List.forall_mem_singleton.mpr (negated _ normal)⟩
  exact ⟨q, compiled, reduced, (unchanged _).mp normal, negated _ normal,
    (joined _ (List.forall_mem_cons.mpr ⟨.always, parts⟩)).1,
    (joined _ (List.forall_mem_cons.mpr ⟨.never, parts⟩)).2⟩

end FilterCompiler

end TransferLedger
