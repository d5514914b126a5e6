/-
# TransferLedger.Proofs.Reconcile.Touched -- which tokens a refresh without a transaction reads

The address of an account becomes a topic, the topic a filter, the filter a query, and the query a
list of emitters. In the end these are the contracts of the stored transfers whose sender or
receiver is the address as a number, in the order of the chain, whichever store holds the rows and
however the compiler negates.
-/

import TransferLedger.Proofs.LogStore.Refinement
import TransferLedger.Proofs.Number.Joined
import TransferLedger.Proofs.Number.Scalar
import TransferLedger.Proofs.Query.Agreement
import TransferLedger.Reconcile.Refresh

namespace TransferLedger

open TransferLedger.Text TransferLedger.Fallible

/-! ## Addresses as numbers -/

/-- How many hex digits an address has. -/
def addressDigits : Nat := 40

/-- Whether a text is an address: a mark and forty hex digits, all of either letter case. -/
def isHexAddress (address : String) : Bool :=
  (afterHexMark? address.toList).any fun digits =>
    digits.length == addressDigits && digits.all fun c => (hexValue? c).isSome

/-- **The topic of an address is the address as a number,** which every address is. -/
theorem ofScalar?_topicOfAddress {address : String} (h : isHexAddress address = true) :
    ∃ owner, Word.ofScalar? address = some owner ∧
      Word.ofScalar? (topicOfAddress (lower address)) = some owner := by
  unfold isHexAddress at h
  rw [Option.any_eq_true] at h
  obtain ⟨digits, marked, shape⟩ := h
  rw [Bool.and_eq_true, beq_iff_eq, List.all_eq_true] at shape
  obtain ⟨count, hex⟩ := shape
  replace hex : IsHex digits := hex
  have nonempty : digits ≠ [] := by
    rintro rfl
    cases count
  obtain ⟨n, small, number⟩ := hexNat?_of_digits hex
  have fits : n < 2 ^ 256 := by
    rw [count] at small
    exact Nat.lt_trans small (by decide)
  refine ⟨BitVec.ofNatLT n fits, ?_, ?_⟩
  · obtain ⟨mark, isMark, split⟩ := exists_hexMark address.toList
    rw [dropHexMark, marked, Option.getD_some] at split
    rw [Word.ofScalar?_of_hex split isMark nonempty hex, number]
    exact dif_pos fits
  · -- The topic is the same digits in lower case behind some zeros.
    let low := (digits.map Char.toLower).map Char.toLower
    have topic : (topicOfAddress (lower address)).toList =
        ['0', 'x'] ++ (List.replicate (topicDigits - low.length) '0' ++ low) := by
      simp [topicOfAddress, dropHexMark, afterHexMark?_map_toLower, marked, low]
    have allHex : IsHex (List.replicate (topicDigits - low.length) '0' ++ low) :=
      (IsHex.zeros _).append hex.map_toLower.map_toLower
    have filled : List.replicate (topicDigits - low.length) '0' ++ low ≠ [] := by
      simp [low, nonempty]
    rw [Word.ofScalar?_of_hex topic (by decide) filled allHex, hexNat?_zeros,
      hexNat?_map_toLower, hexNat?_map_toLower, number]
    exact dif_pos fits

/-! ## Transfers -/

/-- Whether the argument of a row at a slot is a number. -/
def LogRow.argumentIs (row : LogRow) (slot : UInt64) (w : Word) : Bool :=
  row.args.any fun a => a.slot == slot && a.toWord? == some w

/-- **Whether a row is a token transfer from or to an owner.** -/
def LogRow.moves (row : LogRow) (owner : Word) : Bool :=
  sameIgnoringCase row.signature EventSchema.transferTopic &&
    (row.argumentIs 0 owner || row.argumentIs 1 owner)

theorem argsOf_encodes {skip : Nat} {position : Nat} {words : List String} {args : List SlotWord}
    (h : argsOf skip position words = .ok args) {a : SlotWord} (ha : a ∈ args) :
    ∃ v, a = SlotWord.ofWord v a.slot := by
  obtain ⟨i, hi⟩ := List.mem_iff_getElem?.mp ha
  rw [getElem?_of_argsOf h, Option.map_eq_some_iff] at hi
  obtain ⟨v, -, rfl⟩ := hi
  exact ⟨v, rfl⟩

/-- The arguments of the row of a log are encodings. -/
theorem LogRow.encodes_of_ofLog {log : RawLog} {row : LogRow} (h : ofLog log = .ok row)
    {a : SlotWord} (ha : a ∈ row.args) : ∃ v, a = SlotWord.ofWord v a.slot := by
  unfold ofLog at h
  obtain ⟨args, encoded, made⟩ := bind_eq_ok.mp h
  cases made
  exact argsOf_encodes encoded ha

/-- The search for a number at a slot finds the rows whose argument there is the number. -/
theorem argumentIs_of_ofLog {log : RawLog} {row : LogRow} (h : LogRow.ofLog log = .ok row)
    (slot : UInt64) (w : Word) :
    row.args.any (ArgMatch.equal (SlotWord.ofWord w slot)).accepts = row.argumentIs slot w := by
  rw [Bool.eq_iff_iff, List.any_eq_true, LogRow.argumentIs, List.any_eq_true]
  refine exists_congr fun a => and_congr_right fun ha => ?_
  obtain ⟨v, shape⟩ := LogRow.encodes_of_ofLog h ha
  have back : a.toWord? = some v := by rw [shape, SlotWord.toWord?_ofWord]
  rw [ArgMatch.equal_accepts, decide_eq_true_iff, Bool.and_eq_true, beq_iff_eq, beq_iff_eq, back,
    Option.some.injEq]
  constructor
  · rintro rfl
    rw [SlotWord.toWord?_ofWord] at back
    exact ⟨rfl, (Option.some.inj back).symm⟩
  · rintro ⟨rfl, rfl⟩
    exact shape

/-- The query for the transfers from or to an owner. -/
def touchingQuery (owner : Word) : LogQuery :=
  ⟨lower EventSchema.transferTopic,
    .any [.arg (.equal (SlotWord.ofWord owner 1)), .arg (.equal (SlotWord.ofWord owner 0))]⟩

/-- A name compared with a word that can be read becomes a search at the slot of the name. -/
theorem predicate_equals {c : FilterCompiler} {name topic : String} {slot : Nat} {owner : Word}
    (hs : c.schema.slotOf? name = some slot) (h : Word.ofScalar? topic = some owner) :
    c.predicate (.arg name (.equals topic)) =
      .ok (.arg (.equal (SlotWord.ofWord owner (UInt64.ofNat slot)))) := by
  simp only [FilterCompiler.predicate, FilterCompiler.comparison, hs, FilterCompiler.search,
    FilterCompiler.encode, h]
  rfl

/-- No part of the filter is negated, so the way of negation does not matter. -/
theorem compile_touching {c : FilterCompiler} (hc : c.schema = .transfer) {topic : String}
    {owner : Word} (h : Word.ofScalar? topic = some owner) :
    c.compile (.touching topic) = .ok (touchingQuery owner) := by
  have receiver : c.predicate (.arg "to" (.equals topic)) =
      .ok (.arg (.equal (SlotWord.ofWord owner 1))) :=
    predicate_equals (by rw [hc]; rfl) h
  have sender : c.predicate (.arg "from" (.equals topic)) =
      .ok (.arg (.equal (SlotWord.ofWord owner 0))) :=
    predicate_equals (by rw [hc]; rfl) h
  have either : c.predicate (.touching topic) =
      .ok (.any [.arg (.equal (SlotWord.ofWord owner 1)),
        .arg (.equal (SlotWord.ofWord owner 0))]) := by
    rw [LogFilter.touching, FilterCompiler.predicate, FilterCompiler.predicates, receiver,
      FilterCompiler.predicates, sender, FilterCompiler.predicates]
    rfl
  rw [FilterCompiler.compile_eq_ok]
  exact ⟨_, either, rfl, by rw [hc]; rfl⟩

/-- **The query selects the transfers from or to the owner.** -/
theorem selects_touchingQuery {log : RawLog} {row : LogRow} (h : LogRow.ofLog log = .ok row)
    (owner : Word) : (touchingQuery owner).selects row = row.moves owner := by
  rw [touchingQuery, LogQuery.selects, LogRow.moves, Predicate.holds_any]
  simp only [List.any_cons, List.any_nil, Predicate.holds, argumentIs_of_ofLog h, Bool.or_false,
    sameIgnoringCase, lower_lower, Bool.or_comm (row.argumentIs 1 owner)]

/-! ## Either log store -/

/-- **The tokens that the stored transfers from or to an owner name,** in the order of the chain. -/
def touchedTokens (batches : List (List LogRow)) (owner : Word) : List String :=
  distinctValues
    (((batches.foldl OrderedLogs.insert .empty).rows.filter (·.moves owner)).map (·.address))

/-- A log store of either kind that was given some batches of rows. -/
def LogStore.Filled (logs : LogStore) (batches : List (List LogRow)) : Prop :=
  logs = batches.foldl LogStore.insert (.memory .empty) ∨
    logs = batches.foldl LogStore.insert (.tables .empty)

theorem LogStore.foldl_insert_memory (memory : OrderedLogs) (batches : List (List LogRow)) :
    batches.foldl LogStore.insert (.memory memory) =
      .memory (batches.foldl OrderedLogs.insert memory) := by
  induction batches generalizing memory with
  | nil => rfl
  | cons batch batches ih => exact ih (memory.insert batch)

theorem LogStore.foldl_insert_tables (tables : LogTables) (batches : List (List LogRow)) :
    batches.foldl LogStore.insert (.tables tables) =
      .tables (batches.foldl LogTables.insert tables) := by
  induction batches generalizing tables with
  | nil => rfl
  | cons batch batches ih => exact ih (tables.insert batch)

/-- Rows that a reconciler is given: those of logs whose numbers fit in signed words. -/
def OfLogs (batches : List (List LogRow)) : Prop :=
  ∀ row ∈ batches.flatten, row.FitsSigned ∧ ∃ log, LogRow.ofLog log = .ok row

variable {batches : List (List LogRow)}

theorem LogStore.Filled.distinct {logs : LogStore} (filled : logs.Filled batches)
    (rows : OfLogs batches) (f : RowField) (q : LogQuery) :
    logs.distinct f q = (batches.foldl OrderedLogs.insert .empty).distinct f q := by
  rcases filled with rfl | rfl
  · rw [LogStore.foldl_insert_memory]
    rfl
  · rw [LogStore.foldl_insert_tables]
    exact distinct_of_logs (fun row hr => (rows row hr).1) (fun row hr => (rows row hr).2) f q

/-- **The tokens that are looked up for an address** are those of the stored transfers. -/
theorem knownTokens_eq {c : FilterCompiler} (hc : c.schema = .transfer) {faults : Faults}
    {w : World} (filled : w.logs.Filled batches) (rows : OfLogs batches) {address : String}
    {owner : Word} (topic : Word.ofScalar? (topicOfAddress address) = some owner) :
    knownTokens c faults w address =
      (unlessFaulty faults.distinctLogs (.ok (touchedTokens batches owner))).mapError
        (.within "Token lookup in log store failed") := by
  have found : (batches.foldl OrderedLogs.insert .empty).rows.filter (touchingQuery owner).selects =
      (batches.foldl OrderedLogs.insert .empty).rows.filter (·.moves owner) := by
    refine List.filter_congr fun row hr => ?_
    obtain ⟨-, log, made⟩ := rows row (mem_batches hr)
    exact selects_touchingQuery made owner
  have answered : w.logs.distinct .address (touchingQuery owner) = touchedTokens batches owner := by
    rw [filled.distinct rows, OrderedLogs.distinct, OrderedLogs.find, found]
    rfl
  rw [knownTokens, compile_touching hc topic]
  simp only [World.distinctLogs, answered]

end TransferLedger
