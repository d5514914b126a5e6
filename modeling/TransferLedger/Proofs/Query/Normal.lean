/-
# TransferLedger.Proofs.Query.Normal -- the simplifying constructors build normal forms

A predicate is in normal form if it is one of the two constants, or if it holds no constant and no
node that its parent could take over: lists have two parts at least, none of which is a list of the
same kind, and no negation stands over another. `conj`, `disj` and `negate` lead from normal forms to
normal forms, and whether the result is a constant is decided by which of the parts are.
-/

import TransferLedger.Filter.Reduction
import TransferLedger.Proofs.Query.Building

namespace TransferLedger

open Predicate (constant)

/-! ## Answers that may be unknown -/

namespace ThreeValued

/-- The conjunction of some answers. -/
def all (answers : List (Option Bool)) : Option Bool := answers.foldr and (some true)

/-- The disjunction of some answers. -/
def any (answers : List (Option Bool)) : Option Bool := answers.foldr or (some false)

end ThreeValued

namespace Joint

variable (j : Joint) {answers : List (Option Bool)}

/-- Two answers joined. -/
def joinAnswers : Joint → Option Bool → Option Bool → Option Bool
  | and => ThreeValued.and
  | or => ThreeValued.or

/-- Some answers joined. -/
def answer : Joint → List (Option Bool) → Option Bool
  | and => ThreeValued.all
  | or => ThreeValued.any

theorem answer_nil : j.answer [] = some (!j.decisive) := by cases j <;> rfl

theorem answer_cons (a : Option Bool) (rest : List (Option Bool)) :
    j.answer (a :: rest) = j.joinAnswers a (j.answer rest) := by cases j <;> rfl

theorem joinAnswers_eq_decisive {a b : Option Bool} :
    j.joinAnswers a b = some j.decisive ↔ a = some j.decisive ∨ b = some j.decisive := by
  cases j <;> rcases a with _ | _ | _ <;> rcases b with _ | _ | _ <;> decide

theorem joinAnswers_eq_other {a b : Option Bool} :
    j.joinAnswers a b = some (!j.decisive) ↔ a = some (!j.decisive) ∧ b = some (!j.decisive) := by
  cases j <;> rcases a with _ | _ | _ <;> rcases b with _ | _ | _ <;> decide

/-- One answer is enough for the decisive value. -/
theorem answer_eq_decisive :
    j.answer answers = some j.decisive ↔ some j.decisive ∈ answers := by
  induction answers with
  | nil =>
    rw [answer_nil]
    cases j <;> simp [decisive]
  | cons a rest ih => rw [answer_cons, joinAnswers_eq_decisive, ih, List.mem_cons, eq_comm]

/-- All answers are needed for the other one. -/
theorem answer_eq_other :
    j.answer answers = some (!j.decisive) ↔ ∀ a ∈ answers, a = some (!j.decisive) := by
  induction answers with
  | nil => exact iff_of_true j.answer_nil nofun
  | cons a rest ih => rw [answer_cons, joinAnswers_eq_other, ih, List.forall_mem_cons]

/-- An answer with neither of the two values is unknown. -/
theorem eq_none_of_ne {a : Option Bool} (undecided : a ≠ some j.decisive)
    (unsettled : a ≠ some (!j.decisive)) : a = none := by
  cases j <;> rcases a with _ | _ | _ <;> simp_all [decisive]

end Joint

namespace Predicate

variable {j : Joint} {p : Predicate} {ps : List Predicate} {b : Bool}

/-! ## Normal forms -/

/-- **A predicate without constants,** in which no node could be taken over by the one above it. -/
inductive Reduced : Predicate → Prop
  | all {parts : List Predicate} (several : 2 ≤ parts.length) (each : ∀ p ∈ parts, Reduced p)
      (flat : ∀ inner, .all inner ∉ parts) : Reduced (.all parts)
  | any {parts : List Predicate} (several : 2 ≤ parts.length) (each : ∀ p ∈ parts, Reduced p)
      (flat : ∀ inner, .any inner ∉ parts) : Reduced (.any parts)
  | not {inner : Predicate} (within : Reduced inner) (single : ∀ p, inner ≠ .not p) :
      Reduced (.not inner)
  | arg (search : ArgMatch) : Reduced (.arg search)
  | field (name : RowField) (value : String) : Reduced (.field name value)

/-- **A normal form:** a constant, or a predicate without constants. -/
inductive Normal : Predicate → Prop
  | always : Normal always
  | never : Normal never
  | reduced {p : Predicate} (h : Reduced p) : Normal p

/-- What a predicate answers without a row. -/
def verdict : Predicate → Option Bool
  | .all [] => some true
  | .any [] => some false
  | _ => none

theorem verdict_eq_true : p.verdict = some true ↔ p = always := by
  unfold verdict
  split <;> simp_all [always]

theorem verdict_eq_false : p.verdict = some false ↔ p = never := by
  unfold verdict
  split <;> simp_all [never]

theorem verdict_eq_some : p.verdict = some b ↔ p = constant b := by
  cases b with
  | true => exact verdict_eq_true
  | false => exact verdict_eq_false

theorem normal_constant (b : Bool) : Normal (constant b) := by
  cases b with
  | true => exact .always
  | false => exact .never

theorem Normal.constant_or_reduced (h : Normal p) : (∃ b, p = constant b) ∨ Reduced p := by
  cases h with
  | always => exact .inl ⟨true, rfl⟩
  | never => exact .inl ⟨false, rfl⟩
  | reduced r => exact .inr r

theorem reduced_node {parts : List Predicate} :
    Reduced (j.node parts) ↔
      2 ≤ parts.length ∧ (∀ p ∈ parts, Reduced p) ∧ ∀ inner, j.node inner ∉ parts := by
  constructor
  · intro h
    cases j with
    | and => cases h with | all several each flat => exact ⟨several, each, flat⟩
    | or => cases h with | any several each flat => exact ⟨several, each, flat⟩
  · rintro ⟨several, each, flat⟩
    cases j with
    | and => exact .all several each flat
    | or => exact .any several each flat

theorem not_reduced_constant (b : Bool) : ¬Reduced (constant b) := by
  intro h
  cases b with
  | true => cases h with | all several => exact absurd several (by decide)
  | false => cases h with | any several => exact absurd several (by decide)

theorem Reduced.verdict (h : Reduced p) : p.verdict = none := by
  cases value : p.verdict with
  | none => rfl
  | some b => exact absurd (verdict_eq_some.mp value ▸ h) (not_reduced_constant b)

/-! ## Splicing -/

/-- What a part contributes to a list holds no constant and is no list of its kind. -/
theorem Reduced.contributed (h : Reduced p) :
    j.contributed p ≠ [] ∧ ∀ q ∈ j.contributed p, Reduced q ∧ ∀ inner, q ≠ j.node inner := by
  rcases j.contributed_cases p with ⟨parts, rfl, own⟩ | ⟨single, own⟩
  · obtain ⟨several, each, flat⟩ := reduced_node.mp h
    rw [own]
    refine ⟨fun empty => ?_, fun q hq => ⟨each q hq, ?_⟩⟩
    · rw [empty] at several
      exact absurd several (by decide)
    · rintro inner rfl
      exact flat inner hq
  · rw [own]
    refine ⟨List.cons_ne_nil p [], fun q hq => ?_⟩
    obtain rfl := List.mem_singleton.mp hq
    exact ⟨h, single⟩

/-- Where the decisive constant is not among the parts, a part is the other one or without constants. -/
theorem neutral_or_reduced (h : ∀ p ∈ ps, Normal p) (absent : constant j.decisive ∉ ps) :
    ∀ p ∈ ps, p = constant (!j.decisive) ∨ Reduced p := by
  intro p hp
  refine (h p hp).constant_or_reduced.imp_left ?_
  rintro ⟨b, rfl⟩
  rw [Bool.eq_not.mpr fun same : b = j.decisive => absent (same ▸ hp)]

/-- **What parts contribute** if the decisive constant is not among them: nothing if they are nothing
but the other one, and otherwise predicates without constants. -/
theorem splice_cases (each : ∀ p ∈ ps, p = constant (!j.decisive) ∨ Reduced p) :
    ((∀ p ∈ ps, p = constant (!j.decisive)) ∧ ps.flatMap j.contributed = []) ∨
      ((∃ p ∈ ps, p ≠ constant (!j.decisive)) ∧ ps.flatMap j.contributed ≠ [] ∧
        ∀ q ∈ ps.flatMap j.contributed, Reduced q ∧ ∀ inner, q ≠ j.node inner) := by
  have nothing : j.contributed (constant (!j.decisive)) = [] := by
    rw [← j.node_nil, j.contributed_node]
  by_cases neutral : ∀ p ∈ ps, p = constant (!j.decisive)
  · refine .inl ⟨neutral, List.flatMap_eq_nil_iff.mpr fun p hp => ?_⟩
    rw [neutral p hp, nothing]
  · obtain ⟨p, hp, other⟩ : ∃ p ∈ ps, p ≠ constant (!j.decisive) := by simpa using neutral
    refine .inr ⟨⟨p, hp, other⟩, fun empty => ?_, fun q hq => ?_⟩
    · have reduced : Reduced p := (each p hp).resolve_left other
      exact reduced.contributed.1 (List.flatMap_eq_nil_iff.mp empty p hp)
    · obtain ⟨p, hp, part⟩ := List.mem_flatMap.mp hq
      rcases each p hp with rfl | reduced
      · rw [nothing] at part
        exact absurd part List.not_mem_nil
      · exact reduced.contributed.2 q part

theorem two_le_length {α : Type} {l : List α} (nonempty : l ≠ []) (several : ∀ a, l ≠ [a]) :
    2 ≤ l.length := by
  match l, nonempty, several with
  | [a], _, several => exact absurd rfl (several a)
  | _ :: _ :: _, _, _ => simp

/-! ## The constructors -/

/-- **What joining normal forms gives:** the decisive constant if that is among them, the other one
if they are nothing else, and a predicate without constants in every other case. -/
theorem build_cases (h : ∀ p ∈ ps, Normal p) :
    (constant j.decisive ∈ ps ∧ j.build ps = constant j.decisive) ∨
      ((∀ p ∈ ps, p = constant (!j.decisive)) ∧ j.build ps = constant (!j.decisive)) ∨
      (constant j.decisive ∉ ps ∧ (∃ p ∈ ps, p ≠ constant (!j.decisive)) ∧
        Reduced (j.build ps)) := by
  have joined := j.joins_build ps
  generalize j.build ps = built at joined ⊢
  cases joined with
  | absorbed hit => exact .inl ⟨hit, rfl⟩
  | single absent alone =>
    rcases splice_cases (neutral_or_reduced h absent) with ⟨-, empty⟩ | ⟨other, -, spliced⟩
    · -- A part is left, so not all of them contribute nothing.
      exact nomatch empty.symm.trans alone
    · exact .inr (.inr ⟨absent, other, (spliced _ (alone ▸ List.mem_cons_self)).1⟩)
  | list absent unlike =>
    rcases splice_cases (neutral_or_reduced h absent) with
      ⟨neutral, empty⟩ | ⟨other, filled, spliced⟩
    · exact .inr (.inl ⟨neutral, by rw [empty, j.node_nil]⟩)
    · have each : ∀ q ∈ ps.flatMap j.contributed, Reduced q := fun q hq => (spliced q hq).1
      have flat : ∀ inner, j.node inner ∉ ps.flatMap j.contributed :=
        fun inner hq => (spliced _ hq).2 inner rfl
      exact .inr (.inr ⟨absent, other, reduced_node.mpr ⟨two_le_length filled unlike, each, flat⟩⟩)

/-- **Joining normal forms gives one,** and a constant exactly if that follows from which of the parts
are. -/
theorem normal_build (j : Joint) (h : ∀ p ∈ ps, Normal p) :
    Normal (j.build ps) ∧ (j.build ps).verdict = j.answer (ps.map verdict) := by
  rcases build_cases (j := j) h with ⟨hit, built⟩ | ⟨neutral, built⟩ |
    ⟨absent, ⟨p, hp, other⟩, reduced⟩
  · rw [built]
    refine ⟨normal_constant _, ?_⟩
    rw [verdict_eq_some.mpr rfl, eq_comm, j.answer_eq_decisive]
    exact List.mem_map.mpr ⟨_, hit, verdict_eq_some.mpr rfl⟩
  · rw [built]
    refine ⟨normal_constant _, ?_⟩
    rw [verdict_eq_some.mpr rfl, eq_comm, j.answer_eq_other]
    intro a ha
    obtain ⟨p, hp, rfl⟩ := List.mem_map.mp ha
    exact verdict_eq_some.mpr (neutral p hp)
  · rw [reduced.verdict]
    refine ⟨.reduced reduced, (j.eq_none_of_ne (fun value => ?_) fun value => ?_).symm⟩
    · obtain ⟨q, hq, own⟩ := List.mem_map.mp (j.answer_eq_decisive.mp value)
      exact absent (verdict_eq_some.mp own ▸ hq)
    · have own := j.answer_eq_other.mp value p.verdict (List.mem_map_of_mem hp)
      exact other (verdict_eq_some.mp own)

/-- A conjunction of normal forms is one. -/
theorem normal_conj (h : ∀ p ∈ ps, Normal p) :
    Normal (conj ps) ∧ (conj ps).verdict = ThreeValued.all (ps.map verdict) :=
  normal_build .and h

/-- A disjunction of normal forms is one. -/
theorem normal_disj (h : ∀ p ∈ ps, Normal p) :
    Normal (disj ps) ∧ (disj ps).verdict = ThreeValued.any (ps.map verdict) :=
  normal_build .or h

theorem negate_of_reduced (h : Reduced p) (single : ∀ inner, p ≠ .not inner) :
    negate p = .not p := by
  unfold negate
  split
  case h_1 => exact absurd h (not_reduced_constant true)
  case h_2 => exact absurd h (not_reduced_constant false)
  case h_3 inner => exact absurd rfl (single inner)
  case h_4 => rfl

/-- **The negation of a normal form is one,** and a constant exactly if that is. -/
theorem normal_negate (h : Normal p) :
    Normal (negate p) ∧ (negate p).verdict = ThreeValued.not p.verdict := by
  cases h with
  | always => exact ⟨.never, rfl⟩
  | never => exact ⟨.always, rfl⟩
  | reduced r =>
    have built : Reduced (negate p) := by
      by_cases double : ∃ inner, p = .not inner
      · obtain ⟨inner, rfl⟩ := double
        cases r with
        | not within => exact within
      · have single : ∀ inner, p ≠ .not inner := fun inner same => double ⟨inner, same⟩
        rw [negate_of_reduced r single]
        exact .not r single
    exact ⟨.reduced built, by rw [built.verdict, r.verdict]; rfl⟩

end Predicate

end TransferLedger
