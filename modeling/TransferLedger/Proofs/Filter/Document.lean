/-
# TransferLedger.Proofs.Filter.Document -- documents are read as what they say

The reader of filter documents and the grammar agree: what is a filter document is read, and the
filter passes exactly the logs that are as the document says; what is none is refused over its form
or over a value. Each function of the reader gets one statement of this kind, which names the part of
the grammar that it reads and the meaning of that part, and the statements compose as the functions
do. The whole is an induction on the document.
-/

import Mathlib.Data.List.Forall2
import TransferLedger.Filter.Document
import TransferLedger.Filter.Grammar
import TransferLedger.Proofs.Fallible

namespace TransferLedger

open TransferLedger.Text TransferLedger.Fallible

/-- Whether a failure is about the form of a document or about a value in it. -/
def FilterFailure.OfDocument (e : FilterFailure) : Prop :=
  (∃ fault, e = .malformedDocument fault) ∨ ∃ argument value, e = .malformedValue argument value

namespace FilterDocument

/-! ## Readers -/

/-- **A result reads a part of the grammar:** it is a value with a meaning if the part is as the
grammar says, and a failure over the document if it is not. -/
def Reads (r : Except FilterFailure α) (grammatical : Prop) (Means : α → Prop) : Prop :=
  match r with
  | .ok a => grammatical ∧ Means a
  | .error e => ¬grammatical ∧ e.OfDocument

section Readers

variable {r : Except FilterFailure α} {g g' : Prop} {Means : α → Prop}

theorem Reads.map {Means' : β → Prop} {f : α → β} (h : Reads r g Means)
    (grammar : g' ↔ g) (meaning : ∀ a, Means a → Means' (f a)) : Reads (r.map f) g' Means' := by
  cases r with
  | error e => exact ⟨fun h' => h.1 (grammar.mp h'), h.2⟩
  | ok a => exact ⟨grammar.mpr h.1, meaning a h.2⟩

theorem Reads.congr (h : Reads r g Means) (grammar : g' ↔ g) : Reads r g' Means := by
  cases r with
  | error e => exact ⟨fun h' => h.1 (grammar.mp h'), h.2⟩
  | ok a => exact ⟨grammar.mpr h.1, h.2⟩

/-- A refusal over the form of a document. -/
theorem reads_refused {fault : DocumentFault} (h : ¬g) :
    Reads (.error (.malformedDocument fault) : Except FilterFailure α) g Means :=
  ⟨h, .inl ⟨fault, rfl⟩⟩

/-- The first of some parts and the rest of them. -/
theorem Reads.cons {rs : Except FilterFailure (List α)} {gs : Prop} {MeansAll : List α → Prop}
    {Means' : List α → Prop} (first : Reads r g Means) (rest : Reads rs gs MeansAll)
    (meaning : ∀ a as, Means a → MeansAll as → Means' (a :: as)) :
    Reads (do let a ← r; let as ← rs; return a :: as) (g ∧ gs) Means' := by
  cases r with
  | error e => exact ⟨fun both => first.1 both.1, first.2⟩
  | ok a =>
    cases rs with
    | error e => exact ⟨fun both => rest.1 both.2, rest.2⟩
    | ok as => exact ⟨⟨first.1, rest.1⟩, meaning a as first.2 rest.2⟩

/-- Parts of one kind, read one after the other. -/
theorem reads_mapM {f : γ → Except FilterFailure α} {Grammar : γ → Prop} {Meaning : γ → α → Prop}
    (each : ∀ x, Reads (f x) (Grammar x) (Meaning x)) (xs : List γ) :
    Reads (xs.mapM f) (∀ x ∈ xs, Grammar x) (List.Forall₂ Meaning xs) := by
  induction xs with
  | nil => exact ⟨nofun, .nil⟩
  | cons x xs ih =>
    rw [List.mapM_cons]
    refine Reads.congr ?_ List.forall_mem_cons
    exact (each x).cons ih fun a as first rest => .cons first rest

end Readers

/-! ## Values -/

theorem reads_stringOf (name : String) (j : Json) :
    Reads (LogFilter.stringOf name j) (∃ s, j = .str s) (j = .str ·) := by
  cases j with
  | str s => exact ⟨⟨s, rfl⟩, rfl⟩
  | _ => exact ⟨nofun, .inr ⟨name, _, rfl⟩⟩

/-- What is asked of a list of values is what is asked of their texts. -/
theorem eq_map_str {items : List Json} {values : List String}
    (h : List.Forall₂ (fun j s => j = Json.str s) items values) : items = values.map .str := by
  induction h with
  | nil => rfl
  | cons first _ ih => rw [first, ih, List.map_cons]

theorem reads_stringsOf (name : String) (j : Json) :
    Reads (LogFilter.stringsOf name j) (∃ values, j = .texts values) (j = .texts ·) := by
  cases j with
  | arr items =>
    have read := reads_mapM (reads_stringOf name) items
    show Reads (items.mapM (LogFilter.stringOf name)) _ _
    cases result : items.mapM (LogFilter.stringOf name) with
    | error e =>
      rw [result] at read
      refine ⟨?_, read.2⟩
      rintro ⟨values, same⟩
      obtain rfl := Json.arr.inj same
      exact read.1 fun item hitem =>
        let ⟨s, _, hs⟩ := List.mem_map.mp hitem
        ⟨s, hs.symm⟩
    | ok values =>
      rw [result] at read
      have same : Json.arr items = .texts values := congrArg Json.arr (eq_map_str read.2)
      exact ⟨⟨values, same⟩, same⟩
  | _ => exact reads_refused nofun

/-! ## Comparisons -/

/-- Whether a filter passes the logs for which something holds. -/
def Says (answer : EventView → Bool) (filter : LogFilter) : Prop :=
  ∀ view, filter.accepts view = answer view

theorem any_isValue (found : Option Word) (values : List String) :
    (values.map Json.str).any (isValue found) = values.any (Condition.isWord found) := by
  rw [List.any_map]
  rfl

theorem all_isValue (found : Option Word) (values : List String) :
    (values.map Json.str).all (!isValue found ·) = values.all (!Condition.isWord found ·) := by
  rw [List.all_map]
  rfl

/-- **One comparison of an argument.** -/
theorem reads_comparison (name operator : String) (operand : Json) :
    Reads (LogFilter.comparison name operator operand) (IsComparison (operator, operand))
      (Says fun view => compares (view.word? name) (operator, operand)) := by
  -- The operator alone decides whether the grammar allows one text or a list of them.
  have single (known : operator = "$eq" ∨ operator = "$ne") :
      IsComparison (operator, operand) ↔ ∃ s, operand = .str s := by
    constructor
    · intro h
      cases h with
      | single _ value => exact ⟨value, rfl⟩
      | several list =>
        rcases known with rfl | rfl <;> exact absurd list (by decide)
    · rintro ⟨s, rfl⟩
      exact .single known s
  have several (known : operator = "$in" ∨ operator = "$nin") :
      IsComparison (operator, operand) ↔ ∃ values, operand = .texts values := by
    constructor
    · intro h
      cases h with
      | single one =>
        rcases known with rfl | rfl <;> exact absurd one (by decide)
      | several _ values => exact ⟨values, rfl⟩
    · rintro ⟨values, rfl⟩
      exact .several known values
  unfold LogFilter.comparison
  split
  case h_1 =>
    refine (reads_stringOf name operand).map (single (.inl rfl)) ?_
    rintro s rfl view
    rfl
  case h_2 =>
    refine (reads_stringOf name operand).map (single (.inr rfl)) ?_
    rintro s rfl view
    rfl
  case h_3 =>
    refine (reads_stringsOf name operand).map (several (.inl rfl)) ?_
    rintro values rfl view
    exact (any_isValue _ values).symm
  case h_4 =>
    refine (reads_stringsOf name operand).map (several (.inr rfl)) ?_
    rintro values rfl view
    exact (all_isValue _ values).symm
  case h_5 eq ne mem notMem =>
    apply reads_refused
    intro h
    cases h with
    | single known => exact known.elim eq ne
    | several known => exact known.elim mem notMem

/-! ## Conjunctions -/

theorem acceptsAll_eq (view : EventView) (filters : List LogFilter) :
    LogFilter.acceptsAll view filters = filters.all (LogFilter.accepts view) := by
  induction filters with
  | nil => rfl
  | cons filter rest ih => rw [LogFilter.acceptsAll, ih, List.all_cons]

theorem acceptsAny_eq (view : EventView) (filters : List LogFilter) :
    LogFilter.acceptsAny view filters = filters.any (LogFilter.accepts view) := by
  induction filters with
  | nil => rfl
  | cons filter rest ih => rw [LogFilter.acceptsAny, ih, List.any_cons]

/-- A single part that stands for itself says what the conjunction of it would say. -/
theorem accepts_conjunction (view : EventView) (filters : List LogFilter) :
    (LogFilter.conjunction filters).accepts view = filters.all (LogFilter.accepts view) := by
  unfold LogFilter.conjunction
  split
  case h_1 only => rw [List.all_cons, List.all_nil, Bool.and_true]
  case h_2 => rw [LogFilter.accepts, acceptsAll_eq]

theorem all_of_says {answer : EventView → γ → Bool} {xs : List γ} {filters : List LogFilter}
    (h : List.Forall₂ (fun x filter => Says (answer · x) filter) xs filters) (view : EventView) :
    filters.all (LogFilter.accepts view) = xs.all (answer view) := by
  induction h with
  | nil => rfl
  | cons first _ ih => rw [List.all_cons, List.all_cons, first view, ih]

/-! ## Keys -/

theorem isField_connective {key : String} (known : key = "$or" ∨ key = "$and" ∨ key = "$nor")
    {value : Json} :
    IsField (key, value) ↔ ∃ items, value = .arr items ∧ ∀ item ∈ items, IsDocument item := by
  have operator : key.toList.head? = some '$' := by
    rcases known with rfl | rfl | rfl <;> rfl
  constructor
  · intro h
    cases h with
    | connective _ each => exact ⟨_, rfl, each⟩
    | negation => exact absurd known (by decide)
    | emitter => exact absurd known (by decide)
    | value plain => exact absurd operator plain.2
    | comparisons plain => exact absurd operator plain.2
  · rintro ⟨items, rfl, each⟩
    exact .connective known each

theorem isField_negation {key : String} (same : key = "$not") {value : Json} :
    IsField (key, value) ↔ IsDocument value := by
  constructor
  · intro h
    cases h with
    | connective known => exact absurd (same ▸ known) (by decide)
    | negation within => exact within
    | emitter => exact absurd same (by decide)
    | value plain => exact absurd (same ▸ rfl) plain.2
    | comparisons plain => exact absurd (same ▸ rfl) plain.2
  · intro within
    exact same ▸ .negation within

theorem isField_emitter {key : String} (same : key = "address") {value : Json} :
    IsField (key, value) ↔ ∃ s, value = .str s := by
  constructor
  · intro h
    cases h with
    | connective known => exact absurd (same ▸ known) (by decide)
    | negation => exact absurd same (by decide)
    | emitter address => exact ⟨address, rfl⟩
    | value plain => exact absurd same plain.1
    | comparisons plain => exact absurd same plain.1
  · rintro ⟨s, rfl⟩
    exact same ▸ .emitter s

theorem isField_argument {name : String} (plain : NamesArgument name) {value : Json} :
    IsField (name, value) ↔ (∃ s, value = .str s) ∨
      ∃ operators, value = .obj operators ∧ operators ≠ [] ∧ ∀ o ∈ operators, IsComparison o := by
  constructor
  · intro h
    cases h with
    | connective known =>
      rcases known with rfl | rfl | rfl <;> exact absurd rfl plain.2
    | negation => exact absurd rfl plain.2
    | emitter => exact absurd rfl plain.1
    | value _ value => exact .inl ⟨value, rfl⟩
    | comparisons _ filled each => exact .inr ⟨_, rfl, filled, each⟩
  · rintro (⟨s, rfl⟩ | ⟨operators, rfl, filled, each⟩)
    · exact .value plain s
    · exact .comparisons plain filled each

/-- No other key starts with the mark of operators. -/
theorem not_isField {key : String} (operator : key.toList.head? = some '$')
    (unlisted : ¬(key = "$or" ∨ key = "$and" ∨ key = "$nor")) (positive : key ≠ "$not")
    {value : Json} : ¬IsField (key, value) := by
  intro h
  cases h with
  | connective known => exact unlisted known
  | negation => exact positive rfl
  | emitter => exact absurd operator (by decide)
  | value plain => exact plain.2 operator
  | comparisons plain => exact plain.2 operator

/-- **What a document asks of an argument.** -/
theorem reads_argument {name : String} (plain : NamesArgument name) (value : Json) :
    Reads (LogFilter.argument name value) (IsField (name, value))
      (Says fun view => argumentHolds (view.word? name) value) := by
  have grammar := @isField_argument name plain value
  cases value with
  | obj operators =>
    cases operators with
    | nil =>
      -- an object without operators asks nothing, and the grammar has no such value
      apply reads_refused
      intro h
      rcases grammar.mp h with ⟨s, same⟩ | ⟨operators, same, filled, -⟩
      · exact nomatch same
      · exact filled (Json.obj.inj same).symm
    | cons first rest =>
      have read := reads_mapM (fun o => reads_comparison name o.1 o.2) (first :: rest)
      refine read.map (grammar.trans ?_) fun filters meaning view => ?_
      · constructor
        · rintro (⟨s, same⟩ | ⟨operators, same, -, each⟩)
          · exact nomatch same
          · exact Json.obj.inj same ▸ each
        · intro each
          exact .inr ⟨first :: rest, rfl, List.cons_ne_nil first rest, each⟩
      · rw [accepts_conjunction]
        exact all_of_says meaning view
  | str s =>
    exact ⟨.value plain s, fun _ => rfl⟩
  | _ =>
    refine ⟨fun h => ?_, .inr ⟨name, _, rfl⟩⟩
    rcases grammar.mp h with ⟨s, same⟩ | ⟨operators, same, -⟩ <;> exact nomatch same

/-! ## Documents -/

mutual

/-- **A document is read as what it says,** by induction on the document. -/
theorem reads_ofDocument :
    ∀ d : Json, Reads (LogFilter.ofDocument d) (IsDocument d) (Says (holds · d))
  | .obj fields => by
    refine (reads_ofFields fields).map ?_ fun filters meaning view => ?_
    · constructor
      · rintro ⟨each⟩
        exact each
      · exact .object
    · show _ = holds view (.obj fields)
      rw [accepts_conjunction, meaning view, holds]
  | .null => reads_refused nofun
  | .bool _ => reads_refused nofun
  | .num _ => reads_refused nofun
  | .str _ => reads_refused nofun
  | .arr _ => reads_refused nofun
termination_by structural d => d

theorem reads_ofFields : ∀ fields : List (String × Json),
    Reads (LogFilter.ofFields fields) (∀ field ∈ fields, IsField field)
      fun filters => ∀ view, filters.all (LogFilter.accepts view) = fieldsHold view fields
  | [] => ⟨nofun, fun _ => rfl⟩
  | field :: rest => by
    refine Reads.congr ?_ List.forall_mem_cons
    refine (reads_ofField field).cons (reads_ofFields rest) fun filter filters first more view => ?_
    rw [List.all_cons, first view, more view, fieldsHold]
termination_by structural fields => fields

theorem reads_ofField : ∀ field : String × Json,
    Reads (LogFilter.ofField field) (IsField field) (Says (fieldHolds · field))
  | (key, value) => by
    -- The key decides how the value is read, and reading and meaning try the same keys in one order.
    have list := reads_ofList key value
    rw [LogFilter.ofField]
    split_ifs with or and nor not emitter operator
    · refine list.map (isField_connective (.inl or)) fun filters meaning view => ?_
      show _ = fieldHolds view (key, value)
      rw [LogFilter.accepts, acceptsAny_eq, fieldHolds, if_pos or, ← meaning view, List.any_map]
      rfl
    · refine list.map (isField_connective (.inr (.inl and))) fun filters meaning view => ?_
      show _ = fieldHolds view (key, value)
      rw [LogFilter.accepts, acceptsAll_eq, fieldHolds, if_neg or, if_pos and, ← meaning view,
        List.all_map]
      rfl
    · refine list.map (isField_connective (.inr (.inr nor))) fun filters meaning view => ?_
      show _ = fieldHolds view (key, value)
      rw [LogFilter.accepts, LogFilter.accepts, acceptsAny_eq, fieldHolds, if_neg or, if_neg and,
        if_pos nor, ← meaning view, List.any_map]
      rfl
    · refine (reads_ofDocument value).map (isField_negation not) fun filter meaning view => ?_
      show _ = fieldHolds view (key, value)
      rw [LogFilter.accepts, meaning view, fieldHolds, if_neg or, if_neg and, if_neg nor,
        if_pos not]
    · refine (reads_stringOf key value).map (isField_emitter emitter) fun address same view => ?_
      show _ = fieldHolds view (key, value)
      rw [LogFilter.accepts, fieldHolds, if_neg or, if_neg and, if_neg nor, if_neg not,
        if_pos emitter, same, isEmitter]
    · apply reads_refused
      exact not_isField operator (fun known => known.elim or (·.elim and nor)) not
    · have meaning : ∀ view, fieldHolds view (key, value) = argumentHolds (view.word? key) value := by
        intro view
        rw [fieldHolds, if_neg or, if_neg and, if_neg nor, if_neg not, if_neg emitter]
      have read := reads_argument ⟨emitter, operator⟩ value
      rwa [← funext meaning] at read
termination_by structural field => field

theorem reads_ofList (operator : String) : ∀ list : Json,
    Reads (LogFilter.ofList operator list)
      (∃ items, list = .arr items ∧ ∀ item ∈ items, IsDocument item)
      fun filters => ∀ view, filters.map (LogFilter.accepts view) = answers view list
  | .arr items => by
    refine (reads_ofDocuments items).congr ?_
    constructor
    · rintro ⟨_, same, each⟩
      exact Json.arr.inj same ▸ each
    · intro each
      exact ⟨items, rfl, each⟩
  | .null => reads_refused nofun
  | .bool _ => reads_refused nofun
  | .num _ => reads_refused nofun
  | .str _ => reads_refused nofun
  | .obj _ => reads_refused nofun
termination_by structural list => list

theorem reads_ofDocuments : ∀ items : List Json,
    Reads (LogFilter.ofDocuments items) (∀ item ∈ items, IsDocument item)
      fun filters => ∀ view, filters.map (LogFilter.accepts view) = answersOf view items
  | [] => ⟨nofun, fun _ => rfl⟩
  | item :: rest => by
    refine Reads.congr ?_ List.forall_mem_cons
    refine (reads_ofDocument item).cons (reads_ofDocuments rest)
      fun filter filters first more view => ?_
    rw [List.map_cons, first view, more view, answersOf]
termination_by structural items => items

end

/-- **Reading accepts exactly the grammar and keeps the meaning.** A document that is one of a filter
is read, and the filter passes a log exactly if the log is as the document says, under every key and
every comparison at any depth. Any other document is refused over its form or over a value. -/
theorem reading_keeps_meaning (d : Json) :
    match LogFilter.ofDocument d with
    | .ok filter => IsDocument d ∧ ∀ view, filter.accepts view = holds view d
    | .error e => ¬IsDocument d ∧
      ((∃ fault, e = .malformedDocument fault) ∨
        ∃ argument value, e = .malformedValue argument value) := by
  have read := reads_ofDocument d
  cases result : LogFilter.ofDocument d with
  | ok filter =>
    rw [result] at read
    exact read
  | error e =>
    rw [result] at read
    exact read

end FilterDocument

end TransferLedger
