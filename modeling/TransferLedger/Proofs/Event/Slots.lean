/-
# TransferLedger.Proofs.Event.Slots -- the slots of an event number its arguments

A row lays out the indexed arguments of an event and then the others, each group as it was declared.
The slot of a name is computed by counting the arguments declared before it, the name at a slot by
looking into the layout. Here the layout is told as a list of places, which are numbers of
declarations. Each place stands in it once, the slot of a name is where its first declaration stands,
and the name at a slot is that of the declaration which stands there. So if the names are distinct the
two ways are inverse to each other.
-/

import Mathlib.Data.List.Nodup
import Mathlib.Logic.Equiv.Defs
import TransferLedger.Proofs.Log.Layout

namespace TransferLedger.EventSchema

/-! ## Places in a list -/

section Places

variable {α : Type} {p : α → Bool} {items : List α} {place : Nat} {a : α}

/-- An item that is selected stands behind as many others as were selected before it. -/
theorem findIdxs_countP_take (there : items[place]? = some a) (selected : p a = true) :
    (items.findIdxs p)[(items.take place).countP p]? = some place := by
  obtain ⟨inside, rfl⟩ := List.getElem?_eq_some_iff.mp there
  have parts : items.take place ++ items[place] :: items.drop (place + 1) = items := by
    rw [← List.drop_eq_getElem_cons inside, List.take_append_drop]
  have length : (items.take place).length = place := by
    rw [List.length_take]
    omega
  conv_lhs => rw [← parts]
  rw [List.findIdxs_append, List.findIdxs_cons, if_pos selected, length, Nat.zero_add,
    List.getElem?_append_right (by rw [List.length_findIdxs, parts]), List.length_findIdxs, parts,
    Nat.sub_self]
  rfl

/-- The selected items are those at the places of the selected items. -/
theorem getElem?_filter (k : Nat) :
    (items.filter p)[k]? = (items.findIdxs p)[k]?.bind (items[·]?) := by
  by_cases inside : k < (items.filter p).length
  · have inside' : k < (items.findIdxs p).length := by
      rwa [List.length_findIdxs, List.countP_eq_length_filter]
    rw [List.getElem?_eq_getElem inside, List.getElem?_eq_getElem inside', Option.bind_some,
      List.getElem_filter_eq_getElem_getElem_findIdxs, List.getElem?_eq_getElem]
  · have inside' : ¬k < (items.findIdxs p).length := by
      rwa [List.length_findIdxs, List.countP_eq_length_filter]
    rw [List.getElem?_eq_none (Nat.le_of_not_lt inside),
      List.getElem?_eq_none (Nat.le_of_not_lt inside'), Option.bind_none]

theorem exists_of_mem_findIdxs (there : place ∈ items.findIdxs p) :
    ∃ a, items[place]? = some a ∧ p a = true := by
  obtain ⟨inside, selected⟩ := List.mem_findIdxs_iff_exists_getElem_pos.mp there
  exact ⟨_, List.getElem?_eq_getElem inside, selected⟩

end Places

/-! ## The layout -/

/-- The names that an event declares. -/
def names (s : EventSchema) : List String := s.arguments.map (·.name)

/-- **The places of the declarations in the order of their slots:** a row lays out the indexed
arguments first and the others behind them, each group in declared order. -/
def places (s : EventSchema) : List Nat :=
  s.arguments.findIdxs (·.indexed) ++ s.arguments.findIdxs (!·.indexed)

/-- A name is declared at a place, and at none before it. -/
def DeclaresFirst (s : EventSchema) (name : String) (place : Nat) : Prop :=
  (∃ a, s.arguments[place]? = some a ∧ a.name = name) ∧
    ∀ earlier < place, ∀ a, s.arguments[earlier]? = some a → a.name ≠ name

variable {s : EventSchema} {name : String} {slot place : Nat} {a : DeclaredArgument}

theorem nodup_places (s : EventSchema) : s.places.Nodup := by
  refine List.nodup_append.mpr ⟨List.nodup_findIdxs, List.nodup_findIdxs, ?_⟩
  rintro place indexed _ data rfl
  obtain ⟨a, there, isIndexed⟩ := exists_of_mem_findIdxs indexed
  obtain ⟨b, there', isData⟩ := exists_of_mem_findIdxs data
  obtain rfl : a = b := Option.some.inj (there.symm.trans there')
  simp [isIndexed] at isData

theorem mem_places : place ∈ s.places ↔ place < s.arguments.length := by
  rw [places, List.mem_append, List.mem_findIdxs_iff_exists_getElem_pos,
    List.mem_findIdxs_iff_exists_getElem_pos]
  constructor
  · rintro (⟨inside, -⟩ | ⟨inside, -⟩) <;> exact inside
  · intro inside
    cases kind : s.arguments[place].indexed with
    | true => exact .inl ⟨inside, kind⟩
    | false => exact .inr ⟨inside, by rw [kind]; rfl⟩

/-- **Each declaration stands at one slot.** -/
theorem perm_places (s : EventSchema) : s.places.Perm (List.range s.arguments.length) := by
  rw [List.perm_ext_iff_of_nodup (nodup_places s) List.nodup_range]
  intro place
  rw [mem_places, List.mem_range]

theorem length_places (s : EventSchema) : s.places.length = s.arguments.length := by
  rw [(perm_places s).length_eq, List.length_range]

/-- Where the declaration at a place stands. -/
theorem getElem?_places (there : s.arguments[place]? = some a) :
    s.places[if a.indexed then (s.arguments.take place).countP (·.indexed)
      else s.indexedArity + (s.arguments.take place).countP (!·.indexed)]? = some place := by
  cases kind : a.indexed with
  | true =>
    have few := countP_take_lt (p := (·.indexed)) there kind
    rw [if_pos rfl, places, List.getElem?_append_left (by rwa [List.length_findIdxs]),
      findIdxs_countP_take there kind]
  | false =>
    have data : (!a.indexed) = true := by rw [kind]; rfl
    rw [if_neg Bool.false_ne_true, places, indexedArity,
      List.getElem?_append_right (by rw [List.length_findIdxs]; exact Nat.le_add_right _ _),
      List.length_findIdxs, Nat.add_sub_cancel_left,
      findIdxs_countP_take (p := (!·.indexed)) there data]

/-- The indexed arguments have the slots below their number, and the others have the rest. -/
theorem lt_indexedArity_iff (stands : s.places[slot]? = some place)
    (there : s.arguments[place]? = some a) : slot < s.indexedArity ↔ a.indexed = true := by
  have number : (s.arguments.findIdxs (·.indexed)).length = s.indexedArity := List.length_findIdxs
  have group : ∀ {p : DeclaredArgument → Bool}, place ∈ s.arguments.findIdxs p → p a = true := by
    intro p mem
    obtain ⟨b, there', selected⟩ := exists_of_mem_findIdxs mem
    obtain rfl : a = b := Option.some.inj (there.symm.trans there')
    exact selected
  rw [places] at stands
  by_cases early : slot < s.indexedArity
  · rw [List.getElem?_append_left (by rwa [number])] at stands
    exact iff_of_true early (group (List.mem_of_getElem? stands))
  · rw [List.getElem?_append_right (by rw [number]; exact Nat.le_of_not_lt early)] at stands
    have data := group (p := (!·.indexed)) (List.mem_of_getElem? stands)
    exact iff_of_false early (by simpa using data)

/-- Within a group the declared order is the order of the slots. -/
theorem lt_of_places {slot' place' : Nat} {b : DeclaredArgument}
    (stands : s.places[slot]? = some place) (stands' : s.places[slot']? = some place')
    (there : s.arguments[place]? = some a) (there' : s.arguments[place']? = some b)
    (group : a.indexed = b.indexed) (earlier : place < place') : slot < slot' := by
  -- Otherwise the two would stand the other way round in the list of one group.
  have sorted : s.places.Pairwise fun i j => ∀ c d, s.arguments[i]? = some c →
      s.arguments[j]? = some d → c.indexed = d.indexed → i < j := by
    refine List.pairwise_append.mpr ⟨List.pairwise_findIdxs.imp fun less _ _ _ _ _ => less,
      List.pairwise_findIdxs.imp fun less _ _ _ _ _ => less, ?_⟩
    intro i indexed j data c d atC atD same
    obtain ⟨c', atC', isIndexed⟩ := exists_of_mem_findIdxs indexed
    obtain ⟨d', atD', isData⟩ := exists_of_mem_findIdxs data
    obtain rfl : c = c' := Option.some.inj (atC.symm.trans atC')
    obtain rfl : d = d' := Option.some.inj (atD.symm.trans atD')
    simp [← same, isIndexed] at isData
  by_contra late
  obtain ⟨inside, rfl⟩ := List.getElem?_eq_some_iff.mp stands
  obtain ⟨inside', rfl⟩ := List.getElem?_eq_some_iff.mp stands'
  rcases Nat.lt_or_eq_of_le (Nat.le_of_not_lt late) with before | rfl
  · have other := List.pairwise_iff_getElem.mp sorted _ _ inside' inside before _ _ there' there
      group.symm
    omega
  · omega

/-! ## Slots of names -/

theorem findIdx?_eq_some_iff :
    s.arguments.findIdx? (·.name == name) = some place ↔ s.DeclaresFirst name place := by
  rw [List.findIdx?_eq_some_iff_getElem, DeclaresFirst]
  constructor
  · rintro ⟨inside, found, others⟩
    refine ⟨⟨_, List.getElem?_eq_getElem inside, eq_of_beq found⟩, ?_⟩
    rintro earlier before a there rfl
    obtain ⟨_, rfl⟩ := List.getElem?_eq_some_iff.mp there
    exact others earlier before (beq_self_eq_true _)
  · rintro ⟨⟨a, there, rfl⟩, others⟩
    obtain ⟨inside, rfl⟩ := List.getElem?_eq_some_iff.mp there
    refine ⟨inside, beq_self_eq_true _, ?_⟩
    intro earlier before found
    exact others earlier before _ (List.getElem?_eq_getElem (by omega)) (eq_of_beq found)

/-- **The slot of a name is where its first declaration stands.** -/
theorem slotOf?_eq_some_iff :
    s.slotOf? name = some slot ↔ ∃ place, s.DeclaresFirst name place ∧ s.places[slot]? = some place := by
  simp only [slotOf?, Option.bind_eq_bind, Option.bind_eq_some_iff, Option.pure_def,
    Option.some.injEq, findIdx?_eq_some_iff]
  constructor
  · rintro ⟨place, first, a, there, rfl⟩
    exact ⟨place, first, getElem?_places there⟩
  · rintro ⟨place, first, stands⟩
    obtain ⟨a, there, -⟩ := first.1
    refine ⟨place, first, a, there, ?_⟩
    obtain ⟨inside, same⟩ := List.getElem?_eq_some_iff.mp (getElem?_places there)
    obtain ⟨inside', same'⟩ := List.getElem?_eq_some_iff.mp stands
    exact (List.Nodup.getElem_inj_iff (nodup_places s)).mp (same.trans same'.symm)

/-- **The name at a slot is that of the declaration which stands there.** -/
theorem nameAt?_eq_some_iff :
    s.nameAt? slot = some name ↔
      ∃ place a, s.places[slot]? = some place ∧ s.arguments[place]? = some a ∧ a.name = name := by
  have laidOut : s.layout[slot]? = s.places[slot]?.bind (s.arguments[·]?) := by
    rw [layout, places, List.getElem?_append, List.getElem?_append, List.length_findIdxs,
      List.countP_eq_length_filter]
    split <;> exact getElem?_filter _
  simp only [nameAt?, laidOut, Option.map_eq_some_iff, Option.bind_eq_some_iff]
  constructor
  · rintro ⟨a, ⟨place, stands, there⟩, same⟩
    exact ⟨place, a, stands, there, same⟩
  · rintro ⟨place, a, stands, there, same⟩
    exact ⟨a, ⟨place, stands, there⟩, same⟩

theorem slotOf?_eq_none (undeclared : name ∉ s.names) : s.slotOf? name = none := by
  refine Option.eq_none_iff_forall_ne_some.mpr fun slot found => ?_
  obtain ⟨place, ⟨⟨a, there, rfl⟩, -⟩, -⟩ := slotOf?_eq_some_iff.mp found
  exact undeclared (List.mem_map_of_mem (List.mem_of_getElem? there))

theorem nameAt?_eq_none (past : s.arguments.length ≤ slot) : s.nameAt? slot = none := by
  refine Option.eq_none_iff_forall_ne_some.mpr fun name found => ?_
  obtain ⟨place, -, stands, -⟩ := nameAt?_eq_some_iff.mp found
  rw [List.getElem?_eq_none (by rwa [length_places])] at stands
  cases stands

theorem exists_declaresFirst (declared : name ∈ s.names) : ∃ place, s.DeclaresFirst name place := by
  obtain ⟨a, there, same⟩ := List.mem_map.mp declared
  have found : (s.arguments.findIdx? (·.name == name)).isSome = true := by
    rw [List.findIdx?_isSome, List.any_eq_true]
    exact ⟨a, there, beq_iff_eq.mpr same⟩
  obtain ⟨place, first⟩ := Option.isSome_iff_exists.mp found
  exact ⟨place, findIdx?_eq_some_iff.mp first⟩

/-- A name is found at its slot, whatever else is declared. -/
theorem nameAt?_of_slotOf? (h : s.slotOf? name = some slot) : s.nameAt? slot = some name := by
  obtain ⟨place, ⟨⟨a, there, same⟩, -⟩, stands⟩ := slotOf?_eq_some_iff.mp h
  exact nameAt?_eq_some_iff.mpr ⟨place, a, stands, there, same⟩

/-! ## Slots by counting

The slot of a name can be counted in two more ways, one for each group, and the name at a slot by its
rank. They are what a reader of the layout would do by hand, and agree with the layout. -/

/-- An indexed argument has as many others before it as arguments are declared before it, less those
among them that are not indexed. -/
theorem slotOf?_of_indexed (first : s.DeclaresFirst name place) (there : s.arguments[place]? = some a)
    (kind : a.indexed = true) :
    s.slotOf? name = some (place - (s.arguments.take place).countP (!·.indexed)) := by
  obtain ⟨inside, -⟩ := List.getElem?_eq_some_iff.mp there
  have own := slotOf?_eq_some_iff.mpr ⟨place, first, getElem?_places there⟩
  have parts := List.length_eq_countP_add_countP (fun b : DeclaredArgument => b.indexed)
    (l := s.arguments.take place)
  rw [List.length_take, Nat.min_eq_left (Nat.le_of_lt inside)] at parts
  rw [own, if_pos kind, Option.some.injEq]
  simp only [Bool.not_eq_true, Bool.decide_eq_false] at parts
  omega

/-- Any other argument is ranked among its own group, behind all indexed ones. -/
theorem slotOf?_of_data (first : s.DeclaresFirst name place) (there : s.arguments[place]? = some a)
    (kind : a.indexed = false) :
    s.slotOf? name = ((s.arguments.filter (!·.indexed)).findIdx? (·.name == name)).map
      (s.indexedArity + ·) := by
  have own := slotOf?_eq_some_iff.mpr ⟨place, first, getElem?_places there⟩
  obtain ⟨inside, rfl⟩ := List.getElem?_eq_some_iff.mp there
  have named : (s.arguments[place].name == name) = true := by
    obtain ⟨b, there', same⟩ := first.1
    obtain rfl := Option.some.inj (there.symm.trans there')
    exact beq_iff_eq.mpr same
  have others : ((s.arguments.take place).filter (!·.indexed)).findIdx? (·.name == name) = none := by
    rw [List.findIdx?_eq_none_iff]
    intro b mem
    obtain ⟨i, inside', rfl⟩ := List.mem_take_iff_getElem.mp (List.mem_of_mem_filter mem)
    exact beq_eq_false_iff_ne.mpr (first.2 i (by omega) _ (List.getElem?_eq_getElem (by omega)))
  have rank : (s.arguments.filter (!·.indexed)).findIdx? (·.name == name) =
      some ((s.arguments.take place).countP (!·.indexed)) := by
    conv_lhs => rw [← List.take_append_drop place s.arguments, List.drop_eq_getElem_cons inside]
    rw [List.filter_append, List.filter_cons_of_pos (by simp [kind]), List.findIdx?_append, others,
      List.findIdx?_cons, if_pos named, List.countP_eq_length_filter]
    simp
  rw [own, rank, if_neg (by simp [kind]), Option.map_some]

/-- The name at a slot is found by its rank in the group that the slot belongs to. -/
theorem nameAt?_eq_rank (s : EventSchema) (slot : Nat) :
    s.nameAt? slot = if slot < s.indexedArity then (s.arguments.filter (·.indexed))[slot]?.map (·.name)
      else (s.arguments.filter (!·.indexed))[slot - s.indexedArity]?.map (·.name) := by
  rw [nameAt?, layout, List.getElem?_append, indexedArity, List.countP_eq_length_filter]
  split <;> rfl

/-! ## Distinct names -/

/-- A declaration is the first of its name if the names are distinct. -/
theorem declaresFirst_of_nodup (distinct : s.names.Nodup) (there : s.arguments[place]? = some a) :
    s.DeclaresFirst a.name place := by
  refine ⟨⟨a, there, rfl⟩, ?_⟩
  intro earlier before b there' same
  obtain ⟨inside, -⟩ := List.getElem?_eq_some_iff.mp there'
  have names_eq : s.names[earlier]? = s.names[place]? := by
    rw [names, List.getElem?_map, List.getElem?_map, there, there', Option.map_some, Option.map_some,
      same]
  have one : earlier = place :=
    (List.getElem?_inj (by rwa [names, List.length_map]) distinct).mp names_eq
  omega

theorem slotOf?_of_nameAt? (distinct : s.names.Nodup) (h : s.nameAt? slot = some name) :
    s.slotOf? name = some slot := by
  obtain ⟨place, a, stands, there, rfl⟩ := nameAt?_eq_some_iff.mp h
  exact slotOf?_eq_some_iff.mpr ⟨place, declaresFirst_of_nodup distinct there, stands⟩

theorem isSome_slotOf? (declared : name ∈ s.names) : (s.slotOf? name).isSome = true := by
  obtain ⟨place, first⟩ := exists_declaresFirst declared
  obtain ⟨a, there, -⟩ := first.1
  exact Option.isSome_of_mem (slotOf?_eq_some_iff.mpr ⟨place, first, getElem?_places there⟩)

theorem isSome_nameAt? (inside : slot < s.arguments.length) : (s.nameAt? slot).isSome = true := by
  rw [← length_places] at inside
  have there := List.getElem?_eq_getElem (mem_places.mp (List.getElem_mem inside))
  exact Option.isSome_of_mem
    (nameAt?_eq_some_iff.mpr ⟨_, _, List.getElem?_eq_getElem inside, there, rfl⟩)

theorem lt_of_slotOf? (h : s.slotOf? name = some slot) : slot < s.arguments.length := by
  obtain ⟨place, -, stands⟩ := slotOf?_eq_some_iff.mp h
  obtain ⟨inside, -⟩ := List.getElem?_eq_some_iff.mp stands
  rwa [length_places] at inside

theorem mem_names_of_nameAt? (h : s.nameAt? slot = some name) : name ∈ s.names := by
  obtain ⟨place, a, -, there, rfl⟩ := nameAt?_eq_some_iff.mp h
  exact List.mem_map_of_mem (List.mem_of_getElem? there)

/-- The slots of distinct names number them, and the names at the slots are the way back. -/
def numbering (s : EventSchema) (distinct : s.names.Nodup) :
    {name // name ∈ s.names} ≃ Fin s.arguments.length where
  toFun name :=
    ⟨(s.slotOf? name).get (isSome_slotOf? name.2), lt_of_slotOf? (Option.some_get _).symm⟩
  invFun slot :=
    ⟨(s.nameAt? slot).get (isSome_nameAt? slot.2), mem_names_of_nameAt? (Option.some_get _).symm⟩
  left_inv name := by
    have back := nameAt?_of_slotOf? (Option.some_get (isSome_slotOf? name.2)).symm
    exact Subtype.ext (Option.get_of_mem _ back)
  right_inv slot := by
    have back := slotOf?_of_nameAt? distinct (Option.some_get (isSome_nameAt? slot.2)).symm
    exact Fin.ext (Option.get_of_mem _ back)

/-! ## The main theorem -/

/-- **A numbering of the arguments of an event by their slots:** the slot of a name is its number and
the name at a slot the one with that number. The indexed arguments have the numbers below their count
and the others have the rest, and the numbers of each group grow in declared order. -/
structure Numbers (s : EventSchema) (e : {name // name ∈ s.names} ≃ Fin s.arguments.length) :
    Prop where
  slot : ∀ name : {name // name ∈ s.names}, s.slotOf? name = some (e name).val
  name : ∀ slot : Fin s.arguments.length, s.nameAt? slot = some (e.symm slot).val
  indexed : ∀ (a : DeclaredArgument) (k : Nat), a ∈ s.arguments → s.slotOf? a.name = some k →
    (k < s.indexedArity ↔ a.indexed = true)
  order : ∀ (i j k l : Nat) (a b : DeclaredArgument), s.arguments[i]? = some a →
    s.arguments[j]? = some b → s.slotOf? a.name = some k → s.slotOf? b.name = some l →
    a.indexed = b.indexed → i < j → k < l

/-- With distinct names an argument stands at the slot of its name. -/
theorem getElem?_places_of_slotOf? (distinct : s.names.Nodup) (there : s.arguments[place]? = some a)
    (h : s.slotOf? a.name = some slot) : s.places[slot]? = some place := by
  have own := getElem?_places there
  have first := slotOf?_eq_some_iff.mpr ⟨place, declaresFirst_of_nodup distinct there, own⟩
  rw [h, Option.some.injEq] at first
  rwa [first]

theorem numbers_numbering (distinct : s.names.Nodup) : s.Numbers (s.numbering distinct) where
  slot _ := (Option.some_get _).symm
  name _ := (Option.some_get _).symm
  indexed := by
    intro a k mem found
    obtain ⟨place, there⟩ := List.mem_iff_getElem?.mp mem
    exact lt_indexedArity_iff (getElem?_places_of_slotOf? distinct there found) there
  order := by
    intro i j k l a b there there' found found' group earlier
    exact lt_of_places (getElem?_places_of_slotOf? distinct there found)
      (getElem?_places_of_slotOf? distinct there' found') there there' group earlier

/-- **Slots are an order-preserving numbering of the arguments.** If the names of an event are
distinct, the slots of the names and the names at the slots are inverse to each other; the indexed
arguments have the slots below their number and the others have the rest, each group in declared order.
Past the last argument there is no name, and a name that is not declared has no slot. Whatever the names
are, the slot of a declared name is that of its first declaration, and the name is found there. -/
theorem slots_number_arguments (s : EventSchema) :
    (s.names.Nodup → ∃ e, s.Numbers e) ∧
      (∀ slot, s.arguments.length ≤ slot → s.nameAt? slot = none) ∧
      (∀ name, name ∉ s.names → s.slotOf? name = none) ∧
      ∀ name, name ∈ s.names → ∃ slot place, s.slotOf? name = some slot ∧
        s.nameAt? slot = some name ∧ s.DeclaresFirst name place ∧ s.places[slot]? = some place := by
  refine ⟨fun distinct => ⟨_, numbers_numbering distinct⟩, fun _ past => nameAt?_eq_none past,
    fun _ undeclared => slotOf?_eq_none undeclared, ?_⟩
  intro name declared
  obtain ⟨slot, found⟩ := Option.isSome_iff_exists.mp (isSome_slotOf? declared)
  obtain ⟨place, first, stands⟩ := slotOf?_eq_some_iff.mp found
  exact ⟨slot, place, found, nameAt?_of_slotOf? found, first, stands⟩

end TransferLedger.EventSchema

namespace TransferLedger.Interleaved

open TransferLedger.EventSchema

/-- An event whose indexed arguments stand among the others. -/
def event : EventSchema :=
  .declare "Mixed" "0x01"
    [⟨"a", false⟩, ⟨"b", true⟩, ⟨"c", false⟩, ⟨"d", true⟩, ⟨"e", true⟩, ⟨"f", false⟩]

/-- An event that declares a name twice, first as data and then indexed. -/
def repeated : EventSchema := .declare "Repeated" "0x02" [⟨"x", false⟩, ⟨"y", true⟩, ⟨"x", true⟩]

theorem interleaved_arguments_are_numbered :
    (∃ e, event.Numbers e) ∧ event.nameAt? 6 = none ∧ event.slotOf? "g" = none ∧
      ["a", "b", "c", "d", "e", "f"].map event.slotOf? =
        [some 3, some 0, some 4, some 1, some 2, some 5] ∧
      ∃ slot place, repeated.slotOf? "x" = some slot ∧ repeated.nameAt? slot = some "x" ∧
        repeated.DeclaresFirst "x" place ∧ repeated.places[slot]? = some place := by
  obtain ⟨numbered, past, undeclared, -⟩ := slots_number_arguments event
  obtain ⟨-, -, -, first⟩ := slots_number_arguments repeated
  exact ⟨numbered (by decide), past 6 (by decide), undeclared "g" (by decide), by decide,
    first "x" (by decide)⟩

end TransferLedger.Interleaved
