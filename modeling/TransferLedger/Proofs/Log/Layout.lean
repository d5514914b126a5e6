/-
# TransferLedger.Proofs.Log.Layout -- which word of a log stands at which slot

A row counts the words of its log after the signature: the topics and then the data, cut into words.
Its argument at slot `i` is the encoding of the `i`th of these words. On the other side an event
gives its arguments words in the order of their declaration. The slot of an argument is exactly
where the two meet, for every interleaving of indexed arguments and others.
-/

import TransferLedger.Filter.Meaning
import TransferLedger.Proofs.Fallible
import TransferLedger.Proofs.Number.Limbs

namespace TransferLedger

open TransferLedger.Text

/-! ## Data words -/

/-- Some bytes cut into words. -/
def wordsOf (bytes : List UInt8) : List String :=
  (chunksUpTo wordDigits bytes.length bytes).map Utf8.decodeLossy

theorem dataWords_eq (log : RawLog) : dataWords log.data = wordsOf log.dataBytes := rfl

/-- The fuel of the cutting is of no account once it suffices. -/
theorem chunksUpTo_congr {α : Type} {size : Nat} (hs : 0 < size) :
    ∀ {f g : Nat} {items : List α}, items.length ≤ f → items.length ≤ g →
      chunksUpTo size f items = chunksUpTo size g items
  | 0, 0, _, _, _ => rfl
  | 0, _ + 1, [], _, _ => rfl
  | _ + 1, 0, [], _, _ => rfl
  | _ + 1, _ + 1, [], _, _ => rfl
  | f + 1, g + 1, x :: xs, hf, hg => by
    have shorter : ((x :: xs).drop size).length ≤ xs.length := by
      rw [List.length_drop, List.length_cons]
      omega
    rw [List.length_cons] at hf hg
    simp only [chunksUpTo]
    rw [chunksUpTo_congr hs (f := f) (g := g) (Nat.le_trans shorter (by omega))
      (Nat.le_trans shorter (by omega))]

/-- Some items cut into pieces, the last of which may be shorter. -/
def pieces {α : Type} (size : Nat) (items : List α) : List (List α) :=
  chunksUpTo size items.length items

theorem pieces_of_ne_nil {α : Type} {size : Nat} {items : List α} (positive : 0 < size)
    (h : items ≠ []) : pieces size items = items.take size :: pieces size (items.drop size) := by
  obtain ⟨x, rest, rfl⟩ := List.exists_cons_of_ne_nil h
  have shorter : ((x :: rest).drop size).length ≤ rest.length := by
    rw [List.length_drop, List.length_cons]
    omega
  rw [pieces, List.length_cons, chunksUpTo, pieces, chunksUpTo_congr positive shorter (Nat.le_refl _)]
  intro none
  cases none

theorem wordDigits_pos : 0 < wordDigits := by decide

theorem wordsOf_of_ne_nil {bytes : List UInt8} (h : bytes ≠ []) :
    wordsOf bytes = Utf8.decodeLossy (bytes.take wordDigits) :: wordsOf (bytes.drop wordDigits) := by
  rw [wordsOf, ← pieces, pieces_of_ne_nil wordDigits_pos h]
  rfl

theorem head?_wordsOf (bytes : List UInt8) :
    (wordsOf bytes)[0]? =
      if bytes.isEmpty then none else some (Utf8.decodeLossy (bytes.take wordDigits)) := by
  cases bytes with
  | nil => rfl
  | cons b rest => rw [wordsOf_of_ne_nil (List.cons_ne_nil b rest)]; rfl

theorem getElem?_wordsOf_drop (bytes : List UInt8) (i : Nat) :
    (wordsOf (bytes.drop wordDigits))[i]? = (wordsOf bytes)[i + 1]? := by
  cases bytes with
  | nil => rfl
  | cons b rest =>
    rw [wordsOf_of_ne_nil (List.cons_ne_nil b rest), List.getElem?_cons_succ]

theorem length_wordsOf_le (bytes : List UInt8) : (wordsOf bytes).length ≤ bytes.length := by
  have cut : ∀ (fuel : Nat) (items : List UInt8), (chunksUpTo wordDigits fuel items).length ≤ fuel := by
    intro fuel
    induction fuel with
    | zero => intro items; exact Nat.le_refl 0
    | succ fuel ih =>
      intro items
      cases items with
      | nil => exact Nat.zero_le _
      | cons x xs => simpa [chunksUpTo] using ih _
  rw [wordsOf, List.length_map]
  exact cut _ _

/-! ## Arguments of a row -/

/-- **The argument at slot `i` is the encoding of the `i`th word.** -/
theorem getElem?_of_argsOf {skip : Nat} :
    ∀ {position : Nat} {words : List String} {args : List SlotWord},
      argsOf skip position words = .ok args → ∀ i, args[i]? =
        (words[i]?.bind Word.ofScalar?).map fun w =>
          SlotWord.ofWord w (UInt64.ofNat (position + i - skip))
  | _, [], _, h, i => by
    cases h
    rfl
  | position, word :: rest, args, h, i => by
    rw [argsOf] at h
    cases hw : Word.ofScalar? word with
    | none => rw [hw] at h; cases h
    | some w =>
      rw [hw] at h
      cases hr : argsOf skip (position + 1) rest with
      | error e => rw [hr] at h; cases h
      | ok more =>
        rw [hr] at h
        cases h
        cases i with
        | zero => simp [hw]
        | succ i =>
          rw [List.getElem?_cons_succ, getElem?_of_argsOf hr i, List.getElem?_cons_succ,
            Nat.add_right_comm position 1 i, Nat.add_assoc position i 1]

theorem length_of_argsOf {skip : Nat} :
    ∀ {position : Nat} {words : List String} {args : List SlotWord},
      argsOf skip position words = .ok args → args.length = words.length
  | _, [], _, h => by
    cases h
    rfl
  | position, word :: rest, args, h => by
    rw [argsOf] at h
    cases hw : Word.ofScalar? word with
    | none => rw [hw] at h; cases h
    | some w =>
      rw [hw] at h
      cases hr : argsOf skip (position + 1) rest with
      | error e => rw [hr] at h; cases h
      | ok more =>
        rw [hr] at h
        cases h
        rw [List.length_cons, List.length_cons, length_of_argsOf hr]

namespace LogRow

/-- The arguments of a row with a signature are written by the words after it. -/
theorem args_of_ofLog {log : RawLog} {row : LogRow} {signature : String} {topics : List String}
    (ht : log.topics = signature :: topics) (h : ofLog log = .ok row) :
    argsOf 1 1 (topics ++ wordsOf log.dataBytes) = .ok row.args ∧
      row.signature = lower signature ∧ row.address = lower log.address := by
  unfold ofLog at h
  simp only [ht, dataWords_eq, List.isEmpty_cons, Bool.false_eq_true, ↓reduceIte,
    List.cons_append, List.drop_succ_cons, List.drop_zero] at h
  cases ha : argsOf 1 1 (topics ++ wordsOf log.dataBytes) with
  | error e => rw [ha] at h; cases h
  | ok args =>
    rw [ha] at h
    cases h
    exact ⟨rfl, rfl, rfl⟩

/-- The texts that are compared are kept in lower case. -/
theorem lower_of_ofLog {log : RawLog} {row : LogRow} (h : ofLog log = .ok row) :
    lower row.signature = row.signature ∧ lower row.address = row.address := by
  unfold ofLog at h
  obtain ⟨args, _, made⟩ := Fallible.bind_eq_ok.mp h
  cases made
  exact ⟨lower_lower _, lower_lower _⟩

/-- The row of a log of an event has the signature of the event. -/
theorem signature_of_signs {s : EventSchema} {log : RawLog} {row : LogRow}
    (signed : s.signs log = true) (made : ofLog log = .ok row) : row.signature = s.signature := by
  unfold EventSchema.signs at signed
  cases ht : log.topics with
  | nil =>
    rw [ht] at signed
    cases signed
  | cons signature topics =>
    rw [ht, List.head?_cons, Option.any_some, EventSchema.isSignedBy, sameIgnoringCase_iff] at signed
    rw [(args_of_ofLog ht made).2.1, signed, s.lower_signature]

end LogRow

/-! ## Slots of a schema -/

namespace EventSchema

/-- **An argument finds its word by its rank:** an indexed one among the topics, any other among the
data words, counting those of its own group that are declared before it. -/
theorem lookup_assign (name : String) :
    ∀ (arguments : List DeclaredArgument) (topics : List String) (data : List UInt8),
      (assign arguments topics data).lookup name =
        (arguments.findIdx? (·.name == name)).bind fun place =>
          (arguments[place]?).map fun a =>
            if a.indexed then topics[(arguments.take place).countP (·.indexed)]?
            else (wordsOf data)[(arguments.take place).countP (!·.indexed)]?
  | [], _, _ => rfl
  | a :: rest, topics, data => by
    rw [assign, List.findIdx?_cons]
    by_cases hn : a.name = name
    · -- the first declaration: nothing of its group stands before it
      subst hn
      by_cases hi : a.indexed = true
      · simp [hi, List.head?_eq_getElem?]
      · simp [hi, head?_wordsOf]
    · have later : (a.name == name) = false := by simpa using hn
      have other : (name == a.name) = false := by simpa using Ne.symm hn
      by_cases hi : a.indexed = true
      · simp only [hi, ↓reduceIte, List.lookup_cons, other, later, Bool.false_eq_true]
        rw [lookup_assign name rest topics.tail data]
        cases rest.findIdx? (·.name == name) with
        | none => rfl
        | some place =>
          simp [hi, List.getElem?_tail]
      · simp only [hi, ↓reduceIte, List.lookup_cons, other, later, Bool.false_eq_true]
        rw [lookup_assign name rest topics (data.drop wordDigits)]
        cases rest.findIdx? (·.name == name) with
        | none => rfl
        | some place =>
          simp [hi, getElem?_wordsOf_drop]

theorem countP_take_lt {arguments : List DeclaredArgument} {place : Nat} {a : DeclaredArgument}
    {p : DeclaredArgument → Bool} (ha : arguments[place]? = some a) (hp : p a = true) :
    (arguments.take place).countP p < arguments.countP p := by
  obtain ⟨inside, rfl⟩ := List.getElem?_eq_some_iff.mp ha
  have parts : arguments.take place ++ arguments[place] :: arguments.drop (place + 1) = arguments := by
    rw [← List.drop_eq_getElem_cons inside, List.take_append_drop]
  have whole := congrArg (List.countP p) parts
  rw [List.countP_append, List.countP_cons_of_pos hp] at whole
  omega

theorem indexedArity_add_dataArity (s : EventSchema) :
    s.indexedArity + s.dataArity = s.arguments.length := by
  have whole := List.length_eq_countP_add_countP (fun a : DeclaredArgument => a.indexed)
    (l := s.arguments)
  simpa [indexedArity, dataArity] using whole.symm

/-- **The slot of a name is where its word stands** among the topics and the data words, if the log
has as many topics as there are indexed arguments. -/
theorem word_at_slot {s : EventSchema} {name : String} {slot : Nat} (h : s.slotOf? name = some slot)
    {topics : List String} (ht : topics.length = s.indexedArity) (data : List UInt8) :
    ((assign s.arguments topics data).lookup name).join = (topics ++ wordsOf data)[slot]? ∧
      slot < s.arguments.length := by
  rw [lookup_assign]
  unfold slotOf? at h
  simp only [Option.bind_eq_bind, Option.bind_eq_some_iff, Option.pure_def,
    Option.some.injEq] at h
  obtain ⟨place, found, a, ha, rfl⟩ := h
  have arity := indexedArity_add_dataArity s
  rw [found, Option.bind_some, ha, Option.map_some, Option.join_some]
  by_cases hi : a.indexed = true
  · have early := countP_take_lt (p := (·.indexed)) ha hi
    unfold indexedArity at ht arity
    simp only [hi, ↓reduceIte]
    refine ⟨?_, by omega⟩
    rw [List.getElem?_append_left (by omega)]
  · have late := countP_take_lt (p := (!·.indexed)) ha (by simpa using hi)
    unfold dataArity at arity
    simp only [hi, Bool.false_eq_true, ↓reduceIte]
    refine ⟨?_, by omega⟩
    rw [List.getElem?_append_right (by omega), ht, Nat.add_sub_cancel_left]

end EventSchema

/-! ## How many words there are -/

theorem dropMarks_suffix (cs : List Char) : dropMarks cs <:+ cs := by
  fun_induction dropMarks cs with
  | case1 rest ih => exact ih.trans ⟨['0', 'x'], rfl⟩
  | case2 cs _ => exact List.suffix_refl cs

theorem RawLog.length_dataBytes_le (log : RawLog) :
    log.dataBytes.length ≤ (Utf8.encode log.data).length := by
  obtain ⟨marks, whole⟩ := dropMarks_suffix log.data.toList
  unfold RawLog.dataBytes Utf8.encode
  rw [String.toList_ofList, ← whole, List.flatMap_append, List.length_append, whole]
  exact Nat.le_add_left _ _

end TransferLedger
