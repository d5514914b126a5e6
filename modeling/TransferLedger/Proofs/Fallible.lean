/-
# TransferLedger.Proofs.Fallible -- taking results apart

A computation that may fail is a chain of results. These lemmas say how a chain ends: with a value,
where each of its steps gave one, or with the first failure on the way.
-/

import Mathlib.Data.List.Forall2
import TransferLedger.Failure

namespace TransferLedger.Fallible

variable {α β γ ε ε' : Type}

/-! ## Single steps -/

theorem map_eq_ok {r : Except ε α} {f : α → β} {b : β} :
    r.map f = .ok b ↔ ∃ a, r = .ok a ∧ f a = b := by
  cases r <;> simp [Except.map]

theorem map_eq_error {r : Except ε α} {f : α → β} {e : ε} :
    r.map f = .error e ↔ r = .error e := by
  cases r <;> simp [Except.map]

@[simp] theorem mapError_ok (a : α) (f : ε → ε') : (Except.ok a).mapError f = .ok a := rfl

@[simp] theorem mapError_error (e : ε) (f : ε → ε') :
    (Except.error e : Except ε α).mapError f = .error (f e) := rfl

theorem mapError_eq_ok {r : Except ε α} {f : ε → ε'} {a : α} :
    r.mapError f = .ok a ↔ r = .ok a := by
  cases r <;> simp

theorem isOk_mapError (r : Except ε α) (f : ε → ε') : (r.mapError f).isOk = r.isOk := by
  cases r <;> rfl

theorem bind_eq_ok {r : Except ε α} {f : α → Except ε β} {b : β} :
    (r >>= f) = .ok b ↔ ∃ a, r = .ok a ∧ f a = .ok b := by
  cases r <;> simp [bind, Except.bind]

theorem bind_eq_error {r : Except ε α} {f : α → Except ε β} {e : ε} :
    (r >>= f) = .error e ↔ r = .error e ∨ ∃ a, r = .ok a ∧ f a = .error e := by
  cases r <;> simp [bind, Except.bind]

theorem exists_of_isOk {r : Except ε α} (h : r.isOk = true) : ∃ a, r = .ok a := by
  cases r with
  | error => cases h
  | ok a => exact ⟨a, rfl⟩

/-! ## Lists of steps -/

theorem mapM_cons_eq_ok {f : α → Except ε β} {x : α} {xs : List α} {ys : List β} :
    (x :: xs).mapM f = .ok ys ↔ ∃ y rest, f x = .ok y ∧ xs.mapM f = .ok rest ∧ ys = y :: rest := by
  rw [List.mapM_cons]
  simp only [bind_eq_ok, pure, Except.pure, Except.ok.injEq]
  constructor
  · rintro ⟨y, hy, rest, hrest, rfl⟩
    exact ⟨y, rest, hy, hrest, rfl⟩
  · rintro ⟨y, rest, hy, hrest, rfl⟩
    exact ⟨y, hy, rest, hrest, rfl⟩

/-- A list of steps gives the values that its steps give. -/
theorem mapM_eq_ok_iff {f : α → Except ε β} {xs : List α} {ys : List β} :
    xs.mapM f = .ok ys ↔ List.Forall₂ (fun x y => f x = .ok y) xs ys := by
  induction xs generalizing ys with
  | nil => simp [pure, Except.pure, eq_comm]
  | cons x xs ih =>
    rw [mapM_cons_eq_ok, List.forall₂_cons_left_iff]
    simp only [ih]

theorem isOk_mapM (f : α → Except ε β) (xs : List α) :
    (xs.mapM f).isOk = xs.all fun x => (f x).isOk := by
  induction xs with
  | nil => rfl
  | cons x xs ih =>
    rw [List.mapM_cons, List.all_cons, ← ih]
    cases f x with
    | error => rfl
    | ok y => cases xs.mapM f <;> rfl

/-- What is true of each step is true of the list of their values. -/
theorem map_of_mapM {f : α → Except ε β} {g : β → γ} {e : α → γ} {xs : List α} {ys : List β}
    (each : ∀ x ∈ xs, ∀ y, f x = .ok y → g y = e x) (h : xs.mapM f = .ok ys) :
    ys.map g = xs.map e := by
  induction xs generalizing ys with
  | nil =>
    cases h
    rfl
  | cons x xs ih =>
    obtain ⟨y, rest, hy, hrest, rfl⟩ := mapM_cons_eq_ok.mp h
    rw [List.map_cons, List.map_cons, each x List.mem_cons_self y hy,
      ih (fun x hm => each x (List.mem_cons_of_mem _ hm)) hrest]

theorem any_of_mapM {f : α → Except ε β} {g : β → Bool} {e : α → Bool} {xs : List α} {ys : List β}
    (each : ∀ x ∈ xs, ∀ y, f x = .ok y → g y = e x) (h : xs.mapM f = .ok ys) :
    ys.any g = xs.any e := by
  have same := congrArg (·.any id) (map_of_mapM each h)
  simpa [List.any_map] using same

theorem all_of_mapM {f : α → Except ε β} {g : β → Bool} {e : α → Bool} {xs : List α} {ys : List β}
    (each : ∀ x ∈ xs, ∀ y, f x = .ok y → g y = e x) (h : xs.mapM f = .ok ys) :
    ys.all g = xs.all e := by
  have same := congrArg (·.all id) (map_of_mapM each h)
  simpa [List.all_map] using same

/-- A list of steps fails with the failure of one of them. -/
theorem error_of_mapM {f : α → Except ε β} {e : ε} {xs : List α} (h : xs.mapM f = .error e) :
    ∃ x ∈ xs, f x = .error e := by
  induction xs with
  | nil => cases h
  | cons x xs ih =>
    rw [List.mapM_cons, bind_eq_error] at h
    rcases h with h | ⟨y, -, h⟩
    · exact ⟨x, List.mem_cons_self, h⟩
    · rcases bind_eq_error.mp h with h | ⟨rest, -, h⟩
      · obtain ⟨z, hz, he⟩ := ih h
        exact ⟨z, List.mem_cons_of_mem _ hz, he⟩
      · cases h

/-- A list of results without a gap is the list of what they hold. -/
theorem mapM_id_eq_some_iff {os : List (Option α)} {xs : List α} :
    os.mapM id = some xs ↔ os = xs.map some := by
  induction os generalizing xs with
  | nil => cases xs <;> simp
  | cons o os ih =>
    rw [List.mapM_cons]
    cases o with
    | none => cases xs <;> simp
    | some x =>
      cases xs with
      | nil => cases os.mapM id <;> simp
      | cons y ys =>
        rw [List.map_cons, List.cons.injEq, ← ih]
        cases os.mapM id <;> simp

theorem exists_map_some {os : List (Option α)} (h : ∀ o ∈ os, o.isSome = true) :
    ∃ xs : List α, os = xs.map some := by
  refine ⟨os.attach.map fun o => o.1.get (h o.1 o.2), ?_⟩
  simp [Function.comp_def]

end TransferLedger.Fallible
