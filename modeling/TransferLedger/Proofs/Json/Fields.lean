/-
# TransferLedger.Proofs.Json.Fields -- the fields of an object by their keys

An object that is built or parsed holds its fields in the order of their keys, each key once. So
nothing depends on where a field stood: it is found under its key if it was put in, and the last of
several with one key counts. A record reads its declared fields in the same way.
-/

import Mathlib.Data.List.Forall2
import TransferLedger.Proofs.Fallible
import TransferLedger.Proofs.Json.Written

namespace TransferLedger.Json

/-! ## Fields in the order of their keys -/

/-- Fields in the strict order of their keys. -/
def Sorted (fields : List (String × Json)) : Prop := fields.Pairwise fun f g => f.1 < g.1

theorem lookup_cons_eq_ite (name key : String) (v : β) (fields : List (String × β)) :
    ((key, v) :: fields).lookup name = if name = key then some v else fields.lookup name := by
  rw [List.lookup_cons]
  by_cases own : name = key
  · rw [if_pos own, beq_iff_eq.mpr own]
  · rw [if_neg own, beq_eq_false_iff_ne.mpr own]

theorem lookup_setField (key name : String) (v : Json) (fields : List (String × Json)) :
    (setField key v fields).lookup name = if name = key then some v else fields.lookup name := by
  induction fields with
  | nil => exact lookup_cons_eq_ite name key v []
  | cons f rest ih =>
    obtain ⟨k, u⟩ := f
    rw [setField]
    split
    case isTrue => exact lookup_cons_eq_ite name key v _
    case isFalse =>
      split
      case isTrue same =>
        subst same
        rw [lookup_cons_eq_ite, lookup_cons_eq_ite]
        split <;> rfl
      case isFalse apart =>
        rw [lookup_cons_eq_ite, lookup_cons_eq_ite, ih]
        by_cases own : name = key
        · rw [if_pos own, if_pos own, if_neg fun same => apart (own.symm.trans same)]
        · rw [if_neg own, if_neg own]

theorem mem_setField {key : String} {v : Json} {fields : List (String × Json)} {f : String × Json}
    (h : f ∈ setField key v fields) : f = (key, v) ∨ f ∈ fields := by
  induction fields with
  | nil => simpa [setField] using h
  | cons g rest ih =>
    obtain ⟨k, u⟩ := g
    rw [setField] at h
    split at h
    case isTrue => simpa using h
    case isFalse =>
      split at h
      case isTrue =>
        rcases List.mem_cons.mp h with rfl | old
        · exact .inl rfl
        · exact .inr (List.mem_cons_of_mem _ old)
      case isFalse =>
        rcases List.mem_cons.mp h with rfl | old
        · exact .inr List.mem_cons_self
        · exact (ih old).imp_right (List.mem_cons_of_mem _)

theorem Sorted.setField {fields : List (String × Json)} (h : Sorted fields) (key : String)
    (v : Json) : Sorted (setField key v fields) := by
  induction fields with
  | nil => exact List.pairwise_singleton _ _
  | cons f rest ih =>
    obtain ⟨k, u⟩ := f
    obtain ⟨least, sorted⟩ := List.pairwise_cons.mp h
    rw [Json.setField]
    split
    case isTrue less =>
      refine List.pairwise_cons.mpr ⟨fun g hg => ?_, h⟩
      rcases List.mem_cons.mp hg with rfl | later
      · exact less
      · exact String.lt_trans less (least g later)
    case isFalse notLess =>
      split
      case isTrue same =>
        subst same
        exact List.pairwise_cons.mpr ⟨least, sorted⟩
      case isFalse apart =>
        refine List.pairwise_cons.mpr ⟨fun g hg => ?_, ih sorted⟩
        rcases mem_setField hg with rfl | later
        · exact String.not_le.mp fun le => apart (String.le_antisymm le (String.not_lt.mp notLess))
        · exact least g later

/-- **An object holds its fields in the order of their keys.** -/
theorem sorted_sortFields (fields : List (String × Json)) : Sorted (sortFields fields) := by
  -- by induction on the fields, from any that are in order already
  suffices keeps : ∀ sorted, Sorted sorted →
      Sorted (fields.foldl (fun sorted f => Json.setField f.1 f.2 sorted) sorted) from
    keeps [] List.Pairwise.nil
  induction fields with
  | nil => exact fun _ h => h
  | cons f rest ih => exact fun sorted h => ih _ (h.setField f.1 f.2)

theorem Sorted.nodup {fields : List (String × Json)} (h : Sorted fields) :
    (fields.map (·.1)).Nodup := by
  refine List.pairwise_map.mpr (h.imp fun {f g} less same => ?_)
  rw [same] at less
  exact String.lt_irrefl _ less

/-- With each key once a field is found wherever it stands. -/
theorem lookup_eq_some_of_mem {fields : List (String × β)} (once : (fields.map (·.1)).Nodup)
    {key : String} {v : β} (mem : (key, v) ∈ fields) : fields.lookup key = some v := by
  induction fields with
  | nil => exact nomatch mem
  | cons f rest ih =>
    obtain ⟨k, u⟩ := f
    rw [List.map_cons, List.nodup_cons] at once
    rcases List.mem_cons.mp mem with same | later
    · cases same
      exact List.lookup_cons_self
    · have apart : key ≠ k := by
        rintro rfl
        exact once.1 (List.mem_map.mpr ⟨_, later, rfl⟩)
      rw [List.lookup_cons, beq_eq_false_iff_ne.mpr apart]
      exact ih once.2 later

theorem mem_of_lookup_eq_some {fields : List (String × β)} {key : String} {v : β}
    (h : fields.lookup key = some v) : (key, v) ∈ fields := by
  obtain ⟨front, back, rfl, -⟩ := List.lookup_eq_some_iff.mp h
  exact List.mem_append_right _ List.mem_cons_self

/-- Fields that are put in once come before those that were there. -/
theorem lookup_foldl_setField {fields : List (String × Json)} (once : (fields.map (·.1)).Nodup)
    (before : List (String × Json)) (key : String) :
    (fields.foldl (fun sorted f => Json.setField f.1 f.2 sorted) before).lookup key =
      (fields.lookup key).or (before.lookup key) := by
  induction fields generalizing before with
  | nil => rfl
  | cons f rest ih =>
    obtain ⟨k, v⟩ := f
    obtain ⟨first, later⟩ := List.nodup_cons.mp once
    rw [List.foldl_cons, ih later, lookup_setField, lookup_cons_eq_ite]
    by_cases own : key = k
    · have none : rest.lookup key = none := by
        rw [Option.eq_none_iff_forall_not_mem]
        intro u found
        exact first (own ▸ List.mem_map.mpr ⟨_, mem_of_lookup_eq_some found, rfl⟩)
      rw [if_pos own, if_pos own, none]
      rfl
    · rw [if_neg own, if_neg own]

/-- **A field that is put in once is found,** and no others are. -/
theorem get?_object {fields : List (String × Json)} (once : (fields.map (·.1)).Nodup) (key : String) :
    (object fields).get? key = fields.lookup key := by
  have put := lookup_foldl_setField once [] key
  rw [List.lookup_nil, Option.or_none] at put
  exact put

/-- **A parsed object has each key once.** -/
theorem nodup_of_parse? {bytes : List UInt8} {fields : List (String × Json)}
    (h : parse? bytes = some (.obj fields)) : (fields.map (·.1)).Nodup := by
  rw [parse?] at h
  split at h
  case h_2 => exact nomatch h
  case h_1 reading _ =>
    cases reading with
    | obj read =>
      obtain ⟨given, -, made⟩ := Option.map_eq_some_iff.mp (h : (Reading.toFields? _ read).map _ = _)
      cases made
      exact (sorted_sortFields given).nodup
    | arr items =>
      obtain ⟨_, -, made⟩ := Option.map_eq_some_iff.mp (h : (Reading.toItems? _ items).map _ = _)
      exact nomatch made
    | num n => simp [Reading.toJson?] at h
    | str s => simp [Reading.toJson?] at h
    | null | bool b | fault => simp [Reading.toJson?] at h

/-! ## Decoding what a document holds -/

namespace Decoder

theorem text_ofJson {j : Json} {s : String} :
    text (Reading.ofJson j) = .ok s ↔ j = .str s := by
  cases j <;> simp [text, Reading.ofJson]

theorem optional_text_ofJson {j : Json} {s : Option String} :
    optional text (Reading.ofJson j) = .ok s ↔
      (j = .null ∧ s = none) ∨ ∃ t, j = .str t ∧ s = some t := by
  cases j <;> simp [optional, text, Reading.ofJson, Except.map, eq_comm]

/-- **A list is decoded item by item.** -/
theorem list_ofJson {decoder : Decoder α} {j : Json} {as : List α}
    (h : list decoder (Reading.ofJson j) = .ok as) :
    ∃ js, j = .arr js ∧ List.Forall₂ (fun j a => decoder (Reading.ofJson j) = .ok a) js as := by
  cases j with
  | arr js =>
    refine ⟨js, rfl, ?_⟩
    replace h : (Reading.ofItems js).mapM decoder = .ok as := h
    induction js generalizing as with
    | nil =>
      cases h
      exact .nil
    | cons j js ih =>
      obtain ⟨a, rest, first, others, rfl⟩ := Fallible.mapM_cons_eq_ok.mp h
      exact .cons first (ih others)
  | null | bool | num | str | obj => exact nomatch h

/-- The texts of a list of texts. -/
theorem list_text_ofJson {j : Json} {ss : List String}
    (h : list text (Reading.ofJson j) = .ok ss) : j = texts ss := by
  obtain ⟨js, rfl, items⟩ := list_ofJson h
  refine congrArg arr ?_
  clear h
  induction items with
  | nil => rfl
  | cons first _ ih =>
    rw [text_ofJson.mp first, ih, List.map_cons]

theorem lookup_named (own : List (String × Json)) (key : String) :
    ((Reading.ofFields own).filterMap fun (name, value) => name.map (·, value)).lookup key =
      (own.lookup key).map Reading.ofJson := by
  induction own with
  | nil => rfl
  | cons f rest ih =>
    obtain ⟨k, v⟩ := f
    show ((k, Reading.ofJson v) :: (Reading.ofFields rest).filterMap _).lookup key = _
    rw [lookup_cons_eq_ite, lookup_cons_eq_ite, ih]
    split <;> rfl

/-- **A record that is read from a document** has the fields of the object, or it is an array. -/
theorem record_ofJson {declared : List Field} {j : Json} {fields : Record}
    (h : record declared (Reading.ofJson j) = .ok fields) :
    (∃ items, j = .arr items) ∨
      ∃ own, j = .obj own ∧ ∀ key, fields.fields.lookup key = (own.lookup key).map Reading.ofJson := by
  cases j with
  | arr items => exact .inl ⟨items, rfl⟩
  | obj own =>
    refine .inr ⟨own, rfl, fun key => ?_⟩
    obtain ⟨-, -, made⟩ := Fallible.bind_eq_ok.mp h
    cases made
    exact lookup_named own key
  | null | bool | num | str => exact nomatch h

end Decoder

end TransferLedger.Json
