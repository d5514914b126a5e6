/-
# TransferLedger.Proofs.Sql.Meaning -- conditions that have a truth value for every line

A condition means a property of lines when it is true for those that have it and false for the
others, so that nothing is left unknown. The connectives keep that, and the lines that such a
condition selects are those with the property.
-/

import TransferLedger.Sql.Meaning

namespace TransferLedger.Sql

/-! ## Bound values -/

/-- Some values are bound from a place on. -/
def BoundAt (bound : List Value) (place : Nat) (vs : List Value) : Prop := vs <+: bound.drop place

theorem BoundAt.getElem? {bound vs : List Value} {place i : Nat} (h : BoundAt bound place vs)
    (hi : i < vs.length) : bound[place + i]? = vs[i]? := by
  obtain ⟨rest, hrest⟩ := h
  rw [← List.getElem?_drop, ← hrest, List.getElem?_append_left hi]

theorem BoundAt.left {bound vs ws : List Value} {place : Nat} (h : BoundAt bound place (vs ++ ws)) :
    BoundAt bound place vs :=
  List.IsPrefix.trans (List.prefix_append vs ws) h

theorem BoundAt.right {bound vs ws : List Value} {place : Nat}
    (h : BoundAt bound place (vs ++ ws)) : BoundAt bound (place + vs.length) ws := by
  obtain ⟨rest, hrest⟩ := h
  refine ⟨rest, ?_⟩
  rw [← List.drop_drop, ← hrest, List.append_assoc, List.drop_left]

/-! ## Meaning -/

/-- **A condition means a property:** it has a truth value for the lines of each thing, which says
whether the thing has the property. -/
def Means (db : Database) (bound : List Value) (e : Expr) (lines : α → List Row) (has : α → Bool) :
    Prop :=
  ∀ a, truth? db bound e (lines a) = some (some (has a))

variable {db : Database} {bound : List Value} {lines : α → List Row}

theorem compared_integer (c : Comparison) (a b : Int64) :
    compared c (.integer a.toInt) (.integer b.toInt) = some (some (c.test a b)) := by
  cases c <;> simp [compared, Comparison.test, Int64.toInt_inj]

theorem Means.compare {l r : Expr} {c : Comparison} {left right : α → Value} {has : α → Bool}
    (hl : ∀ a, value? db bound l (lines a) = some (left a))
    (hr : ∀ a, value? db bound r (lines a) = some (right a))
    (h : ∀ a, compared c (left a) (right a) = some (some (has a))) :
    Means db bound (.compare c l r) lines has := by
  intro a
  simp [truth?, value?, hl, hr, h]

theorem Means.not {e : Expr} {has : α → Bool} (h : Means db bound e lines has) :
    Means db bound (.not e) lines fun a => !has a := by
  intro a
  obtain ⟨v, value, truth⟩ := Option.bind_eq_some_iff.mp (h a)
  simp [truth?, value?, value, truth]

theorem Means.and {l r : Expr} {first second : α → Bool} (hl : Means db bound l lines first)
    (hr : Means db bound r lines second) :
    Means db bound (.and l r) lines fun a => first a && second a := by
  intro a
  obtain ⟨v, leftValue, leftTruth⟩ := Option.bind_eq_some_iff.mp (hl a)
  obtain ⟨w, rightValue, rightTruth⟩ := Option.bind_eq_some_iff.mp (hr a)
  simp [truth?, value?, leftValue, leftTruth, rightValue, rightTruth]

theorem Means.or {l r : Expr} {first second : α → Bool} (hl : Means db bound l lines first)
    (hr : Means db bound r lines second) :
    Means db bound (.or l r) lines fun a => first a || second a := by
  intro a
  obtain ⟨v, leftValue, leftTruth⟩ := Option.bind_eq_some_iff.mp (hl a)
  obtain ⟨w, rightValue, rightTruth⟩ := Option.bind_eq_some_iff.mp (hr a)
  simp [truth?, value?, leftValue, leftTruth, rightValue, rightTruth]

variable {cells : α → Row}

theorem kept_map {truth : Row → Option Truth} {has : α → Bool}
    (h : ∀ a, truth (cells a) = some (some (has a))) (as : List α) :
    kept truth (as.map cells) = some ((as.filter has).map cells) := by
  induction as with
  | nil => rfl
  | cons a as ih =>
    rw [List.map_cons, kept, h, ih]
    cases holds : has a <;> simp [holds]

theorem occurs_text (s : String) (ts : List String) :
    occurs (.text s) (ts.map .text) = some (some (ts.contains s)) := by
  induction ts with
  | nil => rfl
  | cons t ts ih =>
    rw [List.map_cons, occurs, ih]
    simp [compared, Comparison.test]

theorem mapM_map {read : Row → Option β} {value : α → β}
    (h : ∀ a, read (cells a) = some (value a)) (as : List α) :
    (as.map cells).mapM read = some (as.map value) := by
  induction as with
  | nil => rfl
  | cons a as ih => simp [h, ih]

/-- **Being among the values of another selection,** for a condition that means a property of the
lines of its table. -/
theorem Means.among {subject condition : Expr} {column table : String} {others : List β}
    {cells : β → Row} {text : α → String} {key : β → String} {has : α → β → Bool}
    (hs : ∀ a, value? db bound subject (lines a) = some (.text (text a)))
    (ht : db table = some (others.map cells))
    (hc : ∀ a, Means db bound condition (fun b => cells b :: lines a) (has a))
    (hk : ∀ b, (cells b).lookup column = some (.text (key b))) :
    Means db bound (.among subject column table condition) lines
      fun a => ((others.filter (has a)).map key).contains (text a) := by
  intro a
  have found : kept (fun line => truth? db bound condition (line :: lines a)) (others.map cells) =
      some ((others.filter (has a)).map cells) := kept_map (fun b => hc a b) others
  have keys := mapM_map hk (others.filter (has a))
  have member := occurs_text (text a) ((others.filter (has a)).map key)
  rw [List.map_map] at member
  simp only [truth?] at found ⊢
  simp only [value?, hs, ht, found, keys, Option.bind_eq_bind, Option.bind_some]
  -- The keys are texts, so membership is known.
  show ((occurs _ (List.map (Value.text ∘ key) _)).bind _).bind _ = _
  rw [member]
  simp

end TransferLedger.Sql
