/-
# TransferLedger.Proofs.LastOfEach -- the last of several items with one key

Token balances, rows and arguments are put in under a key, and an item that is put in takes the place
of all that is under its own. So after any items two parts are left: what was there under other keys,
as it was, and behind it what the last item of each key brings. A second round of the same items finds
its own work and changes nothing.
-/

import Mathlib.Data.List.Nodup
import Mathlib.Data.List.Perm.Basic

namespace TransferLedger

variable {α β κ : Type} [DecidableEq κ]

/-! ## The last item of each key -/

/-- **The last item of each key,** in the order in which these items stand: one is passed over when a
later one has its key. -/
def lastOfEach (key : α → κ) : List α → List α
  | [] => []
  | a :: later =>
    if later.any (key · == key a) then lastOfEach key later else a :: lastOfEach key later

variable {key : α → κ} {items front back : List α} {a : α}

theorem sublist_lastOfEach (key : α → κ) (items : List α) :
    (lastOfEach key items).Sublist items := by
  induction items with
  | nil => exact List.Sublist.refl []
  | cons a later ih =>
    rw [lastOfEach]
    split
    case isTrue => exact ih.cons a
    case isFalse => exact ih.cons_cons a

/-- Every key is kept by an item. -/
theorem exists_mem_lastOfEach (key : α → κ) (h : a ∈ items) :
    ∃ b ∈ lastOfEach key items, key b = key a := by
  induction items generalizing a with
  | nil => exact absurd h List.not_mem_nil
  | cons first later ih =>
    rw [lastOfEach]
    rcases List.mem_cons.mp h with rfl | rest
    · split
      case isTrue again =>
        obtain ⟨c, there, same⟩ := List.any_eq_true.mp again
        obtain ⟨b, last, own⟩ := ih there
        exact ⟨b, last, own.trans (eq_of_beq same)⟩
      case isFalse => exact ⟨a, List.mem_cons_self, rfl⟩
    · obtain ⟨b, last, own⟩ := ih rest
      split
      case isTrue => exact ⟨b, last, own⟩
      case isFalse => exact ⟨b, List.mem_cons_of_mem first last, own⟩

/-- **No two of them have one key.** -/
theorem pairwise_lastOfEach (key : α → κ) (items : List α) :
    (lastOfEach key items).Pairwise fun a b => key a ≠ key b := by
  induction items with
  | nil => exact List.Pairwise.nil
  | cons first later ih =>
    rw [lastOfEach]
    split
    case isTrue => exact ih
    case isFalse once =>
      refine List.pairwise_cons.mpr ⟨fun b last same => once ?_, ih⟩
      exact List.any_eq_true.mpr
        ⟨b, (sublist_lastOfEach key later).subset last, beq_iff_eq.mpr same.symm⟩

/-- Later items decide which of the earlier ones stay. -/
theorem lastOfEach_append (key : α → κ) (front back : List α) :
    lastOfEach key (front ++ back) =
      (lastOfEach key front).filter (fun a => !back.any (key · == key a)) ++
        lastOfEach key back := by
  induction front with
  | nil => rfl
  | cons first later ih =>
    rw [List.cons_append, lastOfEach, lastOfEach, List.any_append, ih]
    cases again : later.any (key · == key first) <;>
      cases replaced : back.any (key · == key first) <;> simp [replaced]

/-- The same items a second time bring nothing new. -/
theorem lastOfEach_append_self (key : α → κ) (items : List α) :
    lastOfEach key (items ++ items) = lastOfEach key items := by
  have none : (lastOfEach key items).filter (fun a => !items.any (key · == key a)) = [] := by
    rw [List.filter_eq_nil_iff]
    intro a last
    have there : items.any (key · == key a) = true :=
      List.any_eq_true.mpr ⟨a, (sublist_lastOfEach key items).subset last, beq_self_eq_true _⟩
    rw [there]
    decide
  rw [lastOfEach_append, none, List.nil_append]

/-- **Where a key tells the item,** the order of the items only decides the order of the last ones. -/
theorem perm_lastOfEach
    (one : ∀ a ∈ front ++ back, ∀ b ∈ front ++ back, key a = key b → a = b) :
    (lastOfEach key (front ++ back)).Perm (lastOfEach key (back ++ front)) := by
  have nodup : ∀ items, (lastOfEach key items).Nodup := by
    intro items
    exact (pairwise_lastOfEach key items).imp fun apart same => apart (congrArg key same)
  have members : ∀ items, (∀ a ∈ items, a ∈ front ++ back) →
      ∀ a, a ∈ lastOfEach key items ↔ a ∈ items := by
    intro items within a
    refine ⟨fun last => (sublist_lastOfEach key items).subset last, fun there => ?_⟩
    obtain ⟨b, last, same⟩ := exists_mem_lastOfEach key there
    have own : b ∈ items := (sublist_lastOfEach key items).subset last
    rwa [← one b (within b own) a (within a there) same]
  have swapped : ∀ a, a ∈ back ++ front ↔ a ∈ front ++ back := fun a => by
    rw [List.mem_append, List.mem_append, or_comm]
  rw [List.perm_ext_iff_of_nodup (nodup _) (nodup _)]
  intro a
  rw [members _ (fun _ h => h), members _ (fun a h => (swapped a).mp h), swapped]

/-! ## Putting items in -/

/-- **The last write counts:** where a write either decides what is read or leaves it as it was, what
is read after some writes is what the last one that decides has put there. -/
theorem read_foldl {σ τ : Type} {step : σ → α → σ} {decides : α → Bool} {put : α → τ}
    (sound : σ → Prop) (read : σ → τ) (keeps : ∀ s a, sound s → sound (step s a))
    (each : ∀ s a, sound s → read (step s a) = if decides a then put a else read s)
    (items : List α) {s : σ} (h : sound s) :
    read (items.foldl step s) = (items.filter decides).getLast?.elim (read s) put := by
  induction items generalizing s with
  | nil => rfl
  | cons first later ih =>
    rw [List.foldl_cons, ih (keeps s first h), each s first h, List.filter_cons]
    split
    case isTrue =>
      rw [List.getLast?_cons]
      cases (later.filter decides).getLast? <;> rfl
    case isFalse => rfl

/-- **The lines after an item is put in:** its own take the place of all lines under its key. -/
def replaceLines (of : β → κ) (own : α → κ) (lines : α → List β) (kept : List β) (a : α) : List β :=
  kept.filter (of · != own a) ++ lines a

/-- Where the lines of one key are replaced, the new ones are all that is under it and what is under
another stays. -/
theorem filter_replaced {of : β → κ} {own : κ} {new : List β} (mine : ∀ b ∈ new, of b = own)
    (kept : List β) (k : κ) :
    (kept.filter (of · != own) ++ new).filter (of · == k) =
      if own = k then new else kept.filter (of · == k) := by
  rw [List.filter_append, List.filter_filter]
  split
  · next same =>
    have dropped : kept.filter (fun b => of b == k && of b != own) = [] := by
      rw [List.filter_eq_nil_iff]
      intro b _
      simp [same]
    have all : new.filter (of · == k) = new := by
      rw [List.filter_eq_self]
      intro b hb
      rw [mine b hb, same, beq_self_eq_true]
    rw [dropped, all, List.nil_append]
  · next other =>
    have untouched : kept.filter (fun b => of b == k && of b != own) = kept.filter (of · == k) := by
      apply List.filter_congr
      intro b _
      by_cases here : of b = k
      · simp [here, Ne.symm other]
      · simp [here]
    have none : new.filter (of · == k) = [] := by
      rw [List.filter_eq_nil_iff]
      intro b hb
      simpa [mine b hb] using other
    rw [untouched, none, List.append_nil]

section

variable {of : β → κ} {own : α → κ} {lines : α → List β}

/-- **What some items leave:** the lines under the keys of none of them, and then the lines of the
last item of each key. -/
theorem foldl_replaceLines (mine : ∀ a, ∀ b ∈ lines a, of b = own a) (items : List α)
    (kept : List β) :
    items.foldl (replaceLines of own lines) kept =
      kept.filter (fun b => !items.any (own · == of b)) ++ (lastOfEach own items).flatMap lines := by
  induction items generalizing kept with
  | nil => simp [lastOfEach]
  | cons first later ih =>
    have others : (kept.filter (of · != own first)).filter (fun b => !later.any (own · == of b)) =
        kept.filter fun b => !(first :: later).any (own · == of b) := by
      rw [List.filter_filter]
      refine List.filter_congr fun b _ => ?_
      rw [List.any_cons, Bool.not_or, Bool.and_comm, bne, BEq.comm (a := of b)]
    -- What the first item puts in stays unless a later one has its key.
    have mine' : (lines first).filter (fun b => !later.any (own · == of b)) =
        if later.any (own · == own first) then [] else lines first := by
      split
      case isTrue again =>
        rw [List.filter_eq_nil_iff]
        intro b hb
        simp [mine first b hb, again]
      case isFalse once =>
        rw [List.filter_eq_self]
        intro b hb
        simpa [mine first b hb] using once
    rw [List.foldl_cons, ih, replaceLines, List.filter_append, others, mine', List.append_assoc,
      lastOfEach]
    split <;> rfl

/-- **The same items a second time change nothing.** -/
theorem foldl_replaceLines_twice (mine : ∀ a, ∀ b ∈ lines a, of b = own a) (items : List α)
    (kept : List β) :
    items.foldl (replaceLines of own lines) (items.foldl (replaceLines of own lines) kept) =
      items.foldl (replaceLines of own lines) kept := by
  rw [← List.foldl_append, foldl_replaceLines mine, foldl_replaceLines mine,
    lastOfEach_append_self]
  simp only [List.any_append, Bool.or_self]

/-- **What some items leave under one key:** the lines of the last item that has it, or what was
there before. -/
theorem filter_foldl_replaceLines (mine : ∀ a, ∀ b ∈ lines a, of b = own a) (items : List α)
    (kept : List β) (k : κ) :
    (items.foldl (replaceLines of own lines) kept).filter (of · == k) =
      (items.filter (own · == k)).getLast?.elim (kept.filter (of · == k)) lines := by
  have each : ∀ kept a, True → (replaceLines of own lines kept a).filter (of · == k) =
      if own a == k then lines a else kept.filter (of · == k) := by
    intro kept a _
    rw [replaceLines, filter_replaced (mine a)]
    simp only [beq_iff_eq]
  exact read_foldl (fun _ => True) (List.filter (of · == k)) (fun _ _ h => h) each items trivial

end

end TransferLedger
