/-
# TransferLedger.Proofs.LogStore.Distinct -- values in order of their first occurrence

The distinct values of a list are the values that occur in it, each once. Where another value is put
at the end of the list, it comes last among the distinct ones unless it has occurred before, so facts
about distinct values go by induction from the end.
-/

import Mathlib.Data.List.Induction
import Mathlib.Data.List.Nodup
import Mathlib.Data.List.Perm.Basic
import TransferLedger.LogStore.Memory

namespace TransferLedger

section

variable {α : Type} [BEq α]

theorem distinctValues_concat (l : List α) (v : α) :
    distinctValues (l ++ [v]) =
      if (distinctValues l).contains v then distinctValues l else distinctValues l ++ [v] := by
  rw [distinctValues, List.foldl_append]
  rfl

variable [LawfulBEq α]

theorem mem_distinctValues {l : List α} {v : α} : v ∈ distinctValues l ↔ v ∈ l := by
  induction l using List.reverseRecOn with
  | nil => rfl
  | append_singleton l w ih =>
    rw [distinctValues_concat]
    split
    case isTrue seen =>
      rw [List.contains_iff_mem] at seen
      constructor
      · intro h
        exact List.mem_append_left _ (ih.mp h)
      · intro h
        rcases List.mem_append.mp h with old | new
        · exact ih.mpr old
        · rwa [List.mem_singleton.mp new]
    case isFalse => simp only [List.mem_append, ih]

theorem distinctValues_concat_of_mem {l : List α} {v : α} (h : v ∈ l) :
    distinctValues (l ++ [v]) = distinctValues l := by
  rw [distinctValues_concat, if_pos (List.contains_iff_mem.mpr (mem_distinctValues.mpr h))]

theorem distinctValues_concat_of_notMem {l : List α} {v : α} (h : v ∉ l) :
    distinctValues (l ++ [v]) = distinctValues l ++ [v] := by
  rw [distinctValues_concat, if_neg]
  rw [List.contains_iff_mem, mem_distinctValues]
  exact h

theorem nodup_distinctValues (l : List α) : (distinctValues l).Nodup := by
  induction l using List.reverseRecOn with
  | nil => exact List.nodup_nil
  | append_singleton l w ih =>
    by_cases seen : w ∈ l
    · rw [distinctValues_concat_of_mem seen]
      exact ih
    · rw [distinctValues_concat_of_notMem seen, ← List.concat_eq_append]
      exact List.Nodup.concat (fun h => seen (mem_distinctValues.mp h)) ih

/-- **Distinct values stand in the order of their first occurrence.** -/
theorem pairwise_idxOf_distinctValues (l : List α) :
    (distinctValues l).Pairwise fun v w => l.idxOf v < l.idxOf w := by
  induction l using List.reverseRecOn with
  | nil => exact List.Pairwise.nil
  | append_singleton l w ih =>
    have place : ∀ v ∈ distinctValues l, (l ++ [w]).idxOf v = l.idxOf v :=
      fun v hv => List.idxOf_append_of_mem (mem_distinctValues.mp hv)
    have before : (distinctValues l).Pairwise fun v w' => (l ++ [w]).idxOf v < (l ++ [w]).idxOf w' :=
      ih.imp_of_mem fun hv hw first => by rwa [place _ hv, place _ hw]
    by_cases seen : w ∈ l
    · rwa [distinctValues_concat_of_mem seen]
    · rw [distinctValues_concat_of_notMem seen, List.pairwise_append]
      refine ⟨before, List.pairwise_singleton _ _, fun v hv w' hw => ?_⟩
      obtain rfl := List.mem_singleton.mp hw
      rw [place v hv, List.idxOf_append_of_notMem seen]
      exact Nat.lt_add_right _ (List.idxOf_lt_length_of_mem (mem_distinctValues.mp hv))

/-- Values that are all different stay as they are. -/
theorem distinctValues_of_nodup {l : List α} (h : l.Nodup) : distinctValues l = l := by
  induction l using List.reverseRecOn with
  | nil => rfl
  | append_singleton l w ih =>
    obtain ⟨front, _, apart⟩ := List.nodup_append.mp h
    have fresh : w ∉ l := fun old => apart w old w (List.mem_singleton_self w) rfl
    rw [distinctValues_concat_of_notMem fresh, ih front]

/-- **The order of a list does not change which values are distinct.** -/
theorem distinctValues_perm {l m : List α} (h : l.Perm m) :
    (distinctValues l).Perm (distinctValues m) := by
  rw [List.perm_ext_iff_of_nodup (nodup_distinctValues l) (nodup_distinctValues m)]
  intro v
  rw [mem_distinctValues, mem_distinctValues, h.mem_iff]

end

/-- **Changing values before or after the repeated ones are left out** gives the same in the end. -/
theorem distinctValues_map {α β : Type} [BEq α] [LawfulBEq α] [BEq β] [LawfulBEq β] (f : α → β)
    (l : List α) : distinctValues ((distinctValues l).map f) = distinctValues (l.map f) := by
  induction l using List.reverseRecOn with
  | nil => rfl
  | append_singleton l w ih =>
    rw [List.map_append, List.map_singleton]
    by_cases seen : w ∈ l
    · rw [distinctValues_concat_of_mem seen, distinctValues_concat_of_mem (List.mem_map_of_mem seen),
        ih]
    · rw [distinctValues_concat_of_notMem seen, List.map_append, List.map_singleton]
      -- The changed value may have occurred all the same, and then it has on both sides.
      have both : f w ∈ (distinctValues l).map f ↔ f w ∈ l.map f := by
        simp only [List.mem_map, mem_distinctValues]
      by_cases old : f w ∈ l.map f
      · rw [distinctValues_concat_of_mem old, distinctValues_concat_of_mem (both.mpr old), ih]
      · rw [distinctValues_concat_of_notMem old,
          distinctValues_concat_of_notMem fun h => old (both.mp h), ih]

end TransferLedger
