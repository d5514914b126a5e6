/-
# TransferLedger.Proofs.Query.Building -- the simplifying constructors keep the meaning

`conj`, `disj` and `negate` splice nested lists, absorb the constants and unwrap single parts. On
every row the result means what the plain node would mean, whatever shape the parts have. Conjunction
and disjunction differ in which truth value a single part decides them with, and in nothing else, so
what they do to their parts is said once for both.
-/

import TransferLedger.Query.Predicate

namespace TransferLedger

/-- A connective that parts of a list are joined by. -/
inductive Joint where
  | and
  | or
deriving DecidableEq

namespace Predicate

section Nodes

variable (row : LogRow)

/-! ## Nodes -/

@[simp] theorem holds_all (ps : List Predicate) : holds row (.all ps) = ps.all (holds row) := by
  rw [holds, allHold_eq]

@[simp] theorem holds_any (ps : List Predicate) : holds row (.any ps) = ps.any (holds row) := by
  rw [holds, anyHolds_eq]

@[simp] theorem holds_not (p : Predicate) : holds row (.not p) = !holds row p := by
  rw [holds]

/-- The predicate that every row meets, or the one that no row meets. -/
def constant : Bool → Predicate
  | true => always
  | false => never

theorem holds_constant (b : Bool) : holds row (constant b) = b := by
  cases b with
  | true => simp [constant, always]
  | false => simp [constant, never]

theorem holds_never : holds row never = false := holds_constant row false

end Nodes

theorem eq_never_of_isNever {p : Predicate} (h : p.isNever = true) : p = never := by
  unfold isNever at h
  split at h
  · rfl
  · cases h

theorem isNever_iff {p : Predicate} : p.isNever = true ↔ p = never :=
  ⟨eq_never_of_isNever, fun h => h ▸ rfl⟩

theorem isAlways_iff {p : Predicate} : p.isAlways = true ↔ p = always := by
  unfold isAlways
  split <;> simp_all [always]

end Predicate

/-! ## Joined parts -/

namespace Joint

open Predicate

/-- Some parts as they stand. -/
def node : Joint → List Predicate → Predicate
  | and => .all
  | or => .any

/-- The constructor that simplifies them. -/
def build : Joint → List Predicate → Predicate
  | and => conj
  | or => disj

/-- The parts that a part contributes. -/
def contributed : Joint → Predicate → List Predicate
  | and => conjuncts
  | or => disjuncts

/-- **The truth value that one part is enough for.** No parts at all have the other one. -/
def decisive : Joint → Bool
  | and => false
  | or => true

/-- Whether a part is the constant that decides. -/
def absorbs : Joint → Predicate → Bool
  | and => isNever
  | or => isAlways

variable (j : Joint) {p : Predicate} {ps : List Predicate}

theorem node_nil : j.node [] = constant (!j.decisive) := by cases j <;> rfl

theorem absorbs_iff : j.absorbs p = true ↔ p = constant j.decisive := by
  cases j with
  | and => exact isNever_iff
  | or => exact isAlways_iff

theorem contributed_node (parts : List Predicate) : j.contributed (j.node parts) = parts := by
  cases j <;> rfl

theorem contributed_of_ne (h : ∀ inner, p ≠ j.node inner) : j.contributed p = [p] := by
  cases j with
  | and =>
    cases p with
    | all parts => exact absurd rfl (h parts)
    | _ => rfl
  | or =>
    cases p with
    | any parts => exact absurd rfl (h parts)
    | _ => rfl

/-- A part of the kind of the list contributes its own parts, and any other contributes itself. -/
theorem contributed_cases (p : Predicate) :
    (∃ parts, p = j.node parts ∧ j.contributed p = parts) ∨
      (∀ inner, p ≠ j.node inner) ∧ j.contributed p = [p] := by
  by_cases list : ∃ parts, p = j.node parts
  · obtain ⟨parts, rfl⟩ := list
    exact .inl ⟨parts, rfl, j.contributed_node parts⟩
  · have other : ∀ inner, p ≠ j.node inner := fun inner same => list ⟨inner, same⟩
    exact .inr ⟨other, j.contributed_of_ne other⟩

theorem build_eq (ps : List Predicate) :
    j.build ps =
      if ps.any j.absorbs then constant j.decisive
      else
        match ps.flatMap j.contributed with
        | [only] => only
        | flat => j.node flat := by
  cases j <;> rfl

/-- **What joining some parts gives:** the constant that absorbs the others if it is among them, else
the one part that is left after splicing, or the list of those that are left. -/
inductive Joins (j : Joint) (ps : List Predicate) : Predicate → Prop
  | absorbed (hit : constant j.decisive ∈ ps) : Joins j ps (constant j.decisive)
  | single {only : Predicate} (absent : constant j.decisive ∉ ps)
      (alone : ps.flatMap j.contributed = [only]) : Joins j ps only
  | list (absent : constant j.decisive ∉ ps) (unlike : ∀ only, ps.flatMap j.contributed ≠ [only]) :
      Joins j ps (j.node (ps.flatMap j.contributed))

/-- **The constructors join their parts.** All else about `conj` and `disj` follows from this. -/
theorem joins_build (ps : List Predicate) : j.Joins ps (j.build ps) := by
  have among : ps.any j.absorbs = true ↔ constant j.decisive ∈ ps := by
    simp [absorbs_iff]
  rw [build_eq]
  split
  case isTrue hit => exact .absorbed (among.mp hit)
  case isFalse absent =>
    rw [among] at absent
    split
    case h_1 only alone => exact .single absent alone
    case h_2 unlike => exact .list absent unlike

/-! ## The constructors keep the meaning -/

variable (row : LogRow)

/-- A list has the decisive value exactly if one of its parts has it. -/
theorem holds_node_iff :
    (j.node ps).holds row = j.decisive ↔ ∃ p ∈ ps, p.holds row = j.decisive := by
  cases j with
  | and =>
    show holds row (.all ps) = false ↔ ∃ p ∈ ps, holds row p = false
    rw [holds_all, List.all_eq_false]
    simp
  | or =>
    show holds row (.any ps) = true ↔ ∃ p ∈ ps, holds row p = true
    rw [holds_any, List.any_eq_true]

/-- What a part contributes decides exactly if the part does. -/
theorem holds_contributed_iff :
    (∃ q ∈ j.contributed p, q.holds row = j.decisive) ↔ p.holds row = j.decisive := by
  rcases j.contributed_cases p with ⟨parts, rfl, own⟩ | ⟨-, own⟩
  · rw [own, holds_node_iff]
  · rw [own]
    simp

theorem holds_flatMap_contributed_iff :
    (∃ q ∈ ps.flatMap j.contributed, q.holds row = j.decisive) ↔
      ∃ p ∈ ps, p.holds row = j.decisive := by
  constructor
  · rintro ⟨q, hq, decides⟩
    obtain ⟨p, hp, part⟩ := List.mem_flatMap.mp hq
    exact ⟨p, hp, (j.holds_contributed_iff row).mp ⟨q, part, decides⟩⟩
  · rintro ⟨p, hp, decides⟩
    obtain ⟨q, part, decides⟩ := (j.holds_contributed_iff row).mpr decides
    exact ⟨q, List.mem_flatMap.mpr ⟨p, hp, part⟩, decides⟩

/-- **Joining parts means what the plain node means,** on every row and for parts of any shape. -/
theorem holds_build (ps : List Predicate) : (j.build ps).holds row = (j.node ps).holds row := by
  -- Of two truth values one decides, so it is enough to say when that one is taken.
  have decides : (j.build ps).holds row = j.decisive ↔ (j.node ps).holds row = j.decisive := by
    rw [holds_node_iff]
    have joined := j.joins_build ps
    generalize j.build ps = p at joined
    cases joined with
    | absorbed hit => exact iff_of_true (holds_constant row _) ⟨_, hit, holds_constant row _⟩
    | single absent alone =>
      rw [← holds_flatMap_contributed_iff, alone]
      simp
    | list absent unlike => rw [holds_node_iff, holds_flatMap_contributed_iff]
  have two_values : ∀ {a b d : Bool}, (a = d ↔ b = d) → a = b := by decide
  exact two_values decides

end Joint

namespace Predicate

variable (row : LogRow)

theorem holds_conj (ps : List Predicate) : holds row (conj ps) = ps.all (holds row) :=
  (Joint.and.holds_build row ps).trans (holds_all row ps)

theorem holds_disj (ps : List Predicate) : holds row (disj ps) = ps.any (holds row) :=
  (Joint.or.holds_build row ps).trans (holds_any row ps)

theorem holds_negate (p : Predicate) : holds row (negate p) = !holds row p := by
  unfold negate
  split
  case h_1 => rw [holds_never, holds_all, List.all_nil, Bool.not_true]
  case h_2 => rw [holds_any, List.any_nil, Bool.not_false]; exact holds_constant row true
  case h_3 => rw [holds_not, Bool.not_not]
  case h_4 => rw [holds_not]

end Predicate

end TransferLedger
