/-
# TransferLedger.Proofs.Query.Agreement -- a compiled query selects what its filter means

A filter means something on a log (`LogFilter.accepts`); its query looks at the row kept of that log
(`LogQuery.selects`). Both give the same answer. The two sides meet in `Shows`, which says what a row
tells about the arguments of its log: the search for a word at the slot of a name succeeds exactly
if it is the word of that name. From it the agreement follows by induction on the filter, and rows
kept of logs are shown to have it.
-/

import TransferLedger.Proofs.Fallible
import TransferLedger.Proofs.Log.Layout
import TransferLedger.Proofs.Query.Building
import TransferLedger.Query.Compile

namespace TransferLedger

open TransferLedger.Text TransferLedger.Fallible

/-- Lists and texts in memory have fewer items than this, as their sizes are signed words. -/
def addressable : Nat := 2 ^ 63

/-! ## What a row shows of its log -/

/-- Whether an argument of a row is the encoding of a word at a slot. -/
def LogRow.carries (row : LogRow) (slot : Nat) (w : Word) : Bool :=
  row.args.any (ArgMatch.equal (SlotWord.ofWord w (UInt64.ofNat slot))).accepts

/-- **A row tells the same as a view of its log.** -/
structure EventSchema.Shows (s : EventSchema) (row : LogRow) (view : EventView) : Prop where
  carries : ∀ {name slot}, s.slotOf? name = some slot →
    ∀ w, row.carries slot w = (view.word? name == some w)
  emitter : row.address = lower view.emitter

theorem ArgMatch.equal_accepts (arg stored : SlotWord) :
    (ArgMatch.equal arg).accepts stored = decide (stored = arg) := by
  rw [Bool.eq_iff_iff, decide_eq_true_iff]
  cases stored
  cases arg
  simp [ArgMatch.equal, ArgMatch.accepts, Comparison.test, and_assoc]

/-- Slots below 2^64 are told apart. -/
theorem ofNat_slot_inj {i j : Nat} (hi : i < 2 ^ 64) (hj : j < 2 ^ 64) :
    UInt64.ofNat i = UInt64.ofNat j ↔ i = j := by
  constructor
  · intro h
    have values := congrArg UInt64.toNat h
    rwa [UInt64.toNat_ofNat_of_lt' hi, UInt64.toNat_ofNat_of_lt' hj] at values
  · rintro rfl
    rfl

/-- The search for a word looks at one place only. -/
theorem carries_of_argsOf {row : LogRow} {words : List String} {slot : Nat}
    (h : argsOf 1 1 words = .ok row.args) (count : words.length ≤ 2 ^ 64) (hs : slot < 2 ^ 64)
    (w : Word) : row.carries slot w = ((words[slot]?.bind Word.ofScalar?) == some w) := by
  have at_slot : ∀ i, row.args[i]? =
      (words[i]?.bind Word.ofScalar?).map fun v => SlotWord.ofWord v (UInt64.ofNat i) := by
    intro i
    rw [getElem?_of_argsOf h, Nat.add_sub_cancel_left]
  rw [Bool.eq_iff_iff, beq_iff_eq, LogRow.carries, List.any_eq_true]
  constructor
  · rintro ⟨stored, mem, hit⟩
    rw [ArgMatch.equal_accepts, decide_eq_true_iff] at hit
    obtain ⟨i, hi⟩ := List.mem_iff_getElem?.mp mem
    have inside : i < 2 ^ 64 := by
      obtain ⟨small, -⟩ := List.getElem?_eq_some_iff.mp hi
      rw [length_of_argsOf h] at small
      omega
    rw [at_slot, Option.map_eq_some_iff] at hi
    obtain ⟨v, hv, rfl⟩ := hi
    -- The encoding tells word and slot, and a slot of 64 bits its place, of which there are no more.
    obtain ⟨rfl, same⟩ := SlotWord.ofWord_inj.mp hit
    rw [ofNat_slot_inj inside hs] at same
    rw [← same, hv]
  · intro hw
    refine ⟨SlotWord.ofWord w (UInt64.ofNat slot), ?_, by simp [ArgMatch.equal_accepts]⟩
    apply List.mem_of_getElem?
    rw [at_slot, hw, Option.map_some]

theorem EventSchema.shows_of_ofLog {s : EventSchema} {log : RawLog} {row : LogRow}
    (signed : s.signs log = true) (counted : log.topics.length = 1 + s.indexedArity)
    (kept : LogRow.ofLog log = .ok row) (arguments : s.arguments.length < addressable)
    (topics : log.topics.length < addressable)
    (data : (Utf8.encode log.data).length < addressable) :
    s.Shows row (s.view log) ∧ row.signature = s.signature := by
  cases ht : log.topics with
  | nil =>
    rw [ht, List.length_nil] at counted
    omega
  | cons signature rest =>
    obtain ⟨args, -, hadr⟩ := LogRow.args_of_ofLog ht kept
    rw [ht, List.length_cons] at counted topics
    have words : (rest ++ wordsOf log.dataBytes).length ≤ 2 ^ 64 := by
      have cut := length_wordsOf_le log.dataBytes
      have marks := log.length_dataBytes_le
      unfold addressable at topics data
      rw [List.length_append]
      omega
    refine ⟨⟨?_, hadr⟩, LogRow.signature_of_signs signed kept⟩
    intro name slot hslot w
    have arity : rest.length = s.indexedArity := by omega
    obtain ⟨word, small⟩ := EventSchema.word_at_slot hslot arity log.dataBytes
    unfold addressable at arguments
    rw [carries_of_argsOf args words (by omega), ← word]
    simp only [EventSchema.view, ht, List.tail_cons]

namespace FilterCompiler

variable {c : FilterCompiler} {row : LogRow} {view : EventView}

/-! ## Leaves -/

theorem encode_eq_ok {name value : String} {slot : Nat} {arg : SlotWord}
    (h : encode name slot value = .ok arg) :
    ∃ w, Word.ofScalar? value = some w ∧ arg = SlotWord.ofWord w (UInt64.ofNat slot) := by
  unfold encode at h
  split at h
  case h_1 w hw =>
    cases h
    exact ⟨w, hw, rfl⟩
  case h_2 => cases h

theorem holds_of_search (shown : c.schema.Shows row view) {name value : String} {slot : Nat}
    (hs : c.schema.slotOf? name = some slot) {p : Predicate} (h : search name slot value = .ok p) :
    p.holds row = Condition.isWord (view.word? name) value := by
  obtain ⟨arg, encoded, rfl⟩ := map_eq_ok.mp h
  obtain ⟨w, hw, rfl⟩ := encode_eq_ok encoded
  have found := shown.carries hs w
  unfold LogRow.carries at found
  rw [Predicate.holds, found, Condition.isWord, hw]
  cases view.word? name with
  | none => rfl
  | some v => simp [eq_comm]

theorem holds_of_avoidance (shown : c.schema.Shows row view) (hc : c.negation = .complement)
    {name value : String} {slot : Nat} (hs : c.schema.slotOf? name = some slot) {p : Predicate}
    (h : c.avoidance name slot value = .ok p) :
    p.holds row = !Condition.isWord (view.word? name) value := by
  unfold avoidance at h
  rw [hc] at h
  obtain ⟨q, hq, rfl⟩ := map_eq_ok.mp h
  rw [Predicate.holds_negate, holds_of_search shown hs hq]

theorem holds_of_comparison (shown : c.schema.Shows row view) (hc : c.negation = .complement)
    {name : String} {asked : Condition} {p : Predicate} (h : c.comparison name asked = .ok p) :
    p.holds row = asked.meets (view.word? name) := by
  unfold comparison at h
  cases hs : c.schema.slotOf? name with
  | none => rw [hs] at h; cases h
  | some slot =>
    rw [hs] at h
    cases asked with
    | equals value => exact holds_of_search shown hs h
    | differs value => exact holds_of_avoidance shown hc hs h
    | oneOf values =>
      obtain ⟨ps, hps, rfl⟩ := map_eq_ok.mp h
      rw [Predicate.holds_disj, Condition.meets]
      exact any_of_mapM (fun _ _ _ => holds_of_search shown hs) hps
    | noneOf values =>
      obtain ⟨ps, hps, rfl⟩ := map_eq_ok.mp h
      rw [Predicate.holds_conj, Condition.meets]
      exact all_of_mapM (fun _ _ _ => holds_of_avoidance shown hc hs) hps

/-! ## Trees -/

theorem predicates_eq_mapM : ∀ filters : List LogFilter,
    c.predicates filters = filters.mapM c.predicate
  | [] => rfl
  | filter :: rest => by
    rw [predicates, List.mapM_cons, predicates_eq_mapM rest]

mutual

/-- **The predicate of a filter means what the filter means,** by induction on the filter. -/
theorem holds_of_predicate (shown : c.schema.Shows row view) (hc : c.negation = .complement) :
    ∀ (filter : LogFilter) {p : Predicate}, c.predicate filter = .ok p →
      p.holds row = filter.accepts view
  | .arg name asked, p, h => by
    rw [LogFilter.accepts]
    exact holds_of_comparison shown hc h
  | .all parts, p, h => by
    rw [predicate] at h
    obtain ⟨ps, hps, rfl⟩ := map_eq_ok.mp h
    rw [Predicate.holds_conj, LogFilter.accepts, (holds_of_predicates shown hc parts hps).1]
  | .any parts, p, h => by
    rw [predicate] at h
    obtain ⟨ps, hps, rfl⟩ := map_eq_ok.mp h
    rw [Predicate.holds_disj, LogFilter.accepts, (holds_of_predicates shown hc parts hps).2]
  | .not inner, p, h => by
    rw [predicate] at h
    obtain ⟨q, hq, rfl⟩ := map_eq_ok.mp h
    rw [Predicate.holds_negate, LogFilter.accepts, holds_of_predicate shown hc inner hq]
  | .address value, p, h => by
    rw [predicate] at h
    cases h
    rw [Predicate.holds, RowField.read, shown.emitter, LogFilter.accepts, sameIgnoringCase,
      sameIgnoringCase, lower_lower, lower_lower]

theorem holds_of_predicates (shown : c.schema.Shows row view) (hc : c.negation = .complement) :
    ∀ (filters : List LogFilter) {ps : List Predicate}, c.predicates filters = .ok ps →
      ps.all (Predicate.holds row) = LogFilter.acceptsAll view filters ∧
        ps.any (Predicate.holds row) = LogFilter.acceptsAny view filters
  | [], ps, h => by
    cases h
    exact ⟨rfl, rfl⟩
  | filter :: rest, ps, h => by
    rw [predicates_eq_mapM] at h
    obtain ⟨p, more, hp, hmore, rfl⟩ := mapM_cons_eq_ok.mp h
    rw [← predicates_eq_mapM] at hmore
    have first := holds_of_predicate shown hc filter hp
    have others := holds_of_predicates shown hc rest hmore
    rw [List.all_cons, List.any_cons, first, others.1, others.2]
    exact ⟨rfl, rfl⟩

end

/-! ## Failures -/

theorem encode_error {name value : String} {slot : Nat} {e : FilterFailure}
    (h : encode name slot value = .error e) : e = .malformedValue name value := by
  unfold encode at h
  split at h
  · cases h
  · cases h
    rfl

theorem avoidance_error {name value : String} {slot : Nat} {e : FilterFailure}
    (h : c.avoidance name slot value = .error e) : e = .malformedValue name value := by
  unfold avoidance at h
  cases hn : c.negation with
  | complement =>
    rw [hn] at h
    exact encode_error (map_eq_error.mp (map_eq_error.mp h))
  | fieldWise =>
    rw [hn] at h
    exact encode_error (map_eq_error.mp h)

/-- A comparison fails over its name or over one of its values. -/
theorem comparison_error {name : String} {asked : Condition} {e : FilterFailure}
    (h : c.comparison name asked = .error e) :
    e = .unknownArgument name ∨ ∃ value, e = .malformedValue name value := by
  unfold comparison at h
  cases hs : c.schema.slotOf? name with
  | none =>
    rw [hs] at h
    cases h
    exact .inl rfl
  | some slot =>
    rw [hs] at h
    refine .inr ?_
    cases asked with
    | equals value => exact ⟨value, encode_error (map_eq_error.mp h)⟩
    | differs value => exact ⟨value, avoidance_error h⟩
    | oneOf values =>
      obtain ⟨value, -, failed⟩ := error_of_mapM (map_eq_error.mp h)
      exact ⟨value, encode_error (map_eq_error.mp failed)⟩
    | noneOf values =>
      obtain ⟨value, -, failed⟩ := error_of_mapM (map_eq_error.mp h)
      exact ⟨value, avoidance_error failed⟩

mutual

/-- Only the reduction of a whole filter tells that it selects nothing. -/
theorem predicate_ne_matchesNothing :
    ∀ filter : LogFilter, c.predicate filter ≠ .error .matchesNothing
  | .arg name asked, h => by
    rw [predicate] at h
    rcases comparison_error h with h | ⟨value, h⟩ <;> cases h
  | .all parts, h => by
    rw [predicate, map_eq_error] at h
    exact predicates_ne_matchesNothing parts h
  | .any parts, h => by
    rw [predicate, map_eq_error] at h
    exact predicates_ne_matchesNothing parts h
  | .not inner, h => by
    rw [predicate, map_eq_error] at h
    exact predicate_ne_matchesNothing inner h
  | .address _, h => by cases h

theorem predicates_ne_matchesNothing :
    ∀ filters : List LogFilter, c.predicates filters ≠ .error .matchesNothing
  | [], h => by cases h
  | filter :: rest, h => by
    rw [predicates, bind_eq_error] at h
    rcases h with h | ⟨p, -, h⟩
    · exact predicate_ne_matchesNothing filter h
    · rcases bind_eq_error.mp h with h | ⟨ps, -, h⟩
      · exact predicates_ne_matchesNothing rest h
      · cases h

end

/-! ## Queries -/

theorem compile_eq_ok {filter : LogFilter} {q : LogQuery} :
    c.compile filter = .ok q ↔
      ∃ p, c.predicate filter = .ok p ∧ p.isNever = false ∧ q = ⟨c.schema.signature, p⟩ := by
  unfold compile
  rw [bind_eq_ok]
  refine exists_congr fun p => and_congr_right fun _ => ?_
  cases p.isNever
  · simp [pure, Except.pure, eq_comm]
  · simp [bind, Except.bind, throw, throwThe, MonadExceptOf.throw]

theorem compile_eq_matchesNothing {filter : LogFilter} :
    c.compile filter = .error .matchesNothing ↔
      ∃ p, c.predicate filter = .ok p ∧ p.isNever = true := by
  unfold compile
  rw [bind_eq_error, or_iff_right (predicate_ne_matchesNothing filter)]
  refine exists_congr fun p => and_congr_right fun _ => ?_
  cases p.isNever
  · simp [pure, Except.pure]
  · simp [bind, Except.bind, throw, throwThe, MonadExceptOf.throw]

/-- **A filter and its query agree,** on every log of the event and for every shape of both. The
query of a filter selects the row of a log exactly if the log passes the filter; a filter that is
refused as selecting nothing is passed by no log; and no row of another event is ever selected. -/
theorem compiled_query_selects_accepted_logs (s : EventSchema) (filter : LogFilter)
    (arguments : s.arguments.length < addressable) :
    (∀ (log : RawLog) (row : LogRow), s.signs log = true →
      log.topics.length = 1 + s.indexedArity → LogRow.ofLog log = .ok row →
      log.topics.length < addressable → (Utf8.encode log.data).length < addressable →
        (∀ q, compile ⟨s, .complement⟩ filter = .ok q →
          q.selects row = filter.accepts (s.view log)) ∧
        (compile ⟨s, .complement⟩ filter = .error .matchesNothing →
          filter.accepts (s.view log) = false)) ∧
    ∀ (q : LogQuery) (row : LogRow), compile ⟨s, .complement⟩ filter = .ok q →
      s.isSignedBy row.signature = false → q.selects row = false := by
  constructor
  · intro log row signed counted kept topics data
    obtain ⟨shown, hsig⟩ :=
      EventSchema.shows_of_ofLog signed counted kept arguments topics data
    have agree := fun {p : Predicate} =>
      holds_of_predicate (c := ⟨s, .complement⟩) shown rfl filter (p := p)
    constructor
    · intro q hq
      obtain ⟨p, hp, -, rfl⟩ := compile_eq_ok.mp hq
      rw [LogQuery.selects, hsig, agree hp, sameIgnoringCase, beq_self_eq_true, Bool.true_and]
    · intro refused
      obtain ⟨p, hp, never⟩ := compile_eq_matchesNothing.mp refused
      rw [← agree hp, Predicate.eq_never_of_isNever never, Predicate.holds_never]
  · intro q row hq other
    obtain ⟨p, -, -, rfl⟩ := compile_eq_ok.mp hq
    unfold EventSchema.isSignedBy at other
    rw [LogQuery.selects, other, Bool.false_and]

/-- An event that mixes its groups of arguments and declares one name twice. -/
def mixedEvent : EventSchema :=
  .declare "Mixed" "0xAB" [⟨"a", false⟩, ⟨"b", true⟩, ⟨"c", false⟩, ⟨"b", false⟩]

/-- A log of it whose data ends before the argument `c`. -/
def mixedLog : RawLog where
  blockNumber := 7
  txIndex := 0
  logIndex := 1
  removed := false
  address := "0xToken"
  topics := ["0xaB", "0x0007"]
  data := "0x0000000000000000000000000000000000000000000000000000000000000005"

/-- A filter on it with every kind of leaf and node. -/
def mixedFilter : LogFilter :=
  .all [.not (.any [.arg "a" (.equals "0x7"), .arg "c" (.oneOf ["0x5", "0x0"])]),
    .arg "b" (.equals "07"), .address "0xTOKEN", .arg "c" (.noneOf ["0x5"])]

theorem mixed_query_selects_mixed_log :
    ∃ q row, compile ⟨mixedEvent, .complement⟩ mixedFilter = .ok q ∧
      LogRow.ofLog mixedLog = .ok row ∧ q.selects row = true := by
  obtain ⟨q, hq⟩ : ∃ q, compile ⟨mixedEvent, .complement⟩ mixedFilter = .ok q :=
    exists_of_isOk (by decide +kernel)
  obtain ⟨row, hrow⟩ : ∃ row, LogRow.ofLog mixedLog = .ok row := exists_of_isOk (by decide +kernel)
  have agree := compiled_query_selects_accepted_logs mixedEvent mixedFilter (by decide)
  have selected := (agree.1 mixedLog row (by decide +kernel) (by decide) hrow (by decide)
    (by decide +kernel)).1 q hq
  exact ⟨q, row, hq, hrow, selected.trans (by decide +kernel)⟩

end FilterCompiler

end TransferLedger
