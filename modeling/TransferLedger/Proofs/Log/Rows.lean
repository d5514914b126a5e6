/-
# TransferLedger.Proofs.Log.Rows -- what the row of a log holds

The words of a log are its topics and then its data, cut. A log has a row exactly if all of its words
but the signature are hex scalars, and else the failure names the first one that is not. The row holds
the words as they were written, and at each slot the number of the word that stands there.
-/

import TransferLedger.Proofs.Log.Layout
import TransferLedger.Proofs.Number.Joined
import TransferLedger.Proofs.Number.Scalar
import TransferLedger.Proofs.Query.Agreement
import TransferLedger.Proofs.Text.Encoding

namespace TransferLedger

open TransferLedger.Text

/-! ## Pieces -/

section Pieces

variable {α β : Type} {size : Nat} {items : List α}

/-- What holds of no items, and of some if it does once a piece is cut off, holds of all. -/
theorem cut_induction {motive : List α → Prop} (positive : 0 < size) (nil : motive [])
    (cut : ∀ items, items ≠ [] → motive (items.drop size) → motive items) (items : List α) :
    motive items := by
  induction h : items.length using Nat.strongRecOn generalizing items with
  | ind n ih =>
    by_cases none : items = []
    · exact none ▸ nil
    · have some : 0 < items.length := List.length_pos_iff.mpr none
      refine cut items none (ih _ ?_ _ rfl)
      rw [List.length_drop]
      omega

/-- Pieces put together again are the items. -/
theorem flatten_pieces (positive : 0 < size) (items : List α) : (pieces size items).flatten = items := by
  induction items using cut_induction positive with
  | nil => rfl
  | cut items some ih =>
    rw [pieces_of_ne_nil positive some, List.flatten_cons, ih, List.take_append_drop]

theorem mem_of_mem_pieces (positive : 0 < size) {piece : List α} (h : piece ∈ pieces size items)
    {x : α} (hx : x ∈ piece) : x ∈ items := by
  rw [← flatten_pieces positive items]
  exact List.mem_flatten_of_mem h hx

/-- Every piece holds something, and `size` items at most. -/
theorem length_of_mem_pieces (positive : 0 < size) {piece : List α} (h : piece ∈ pieces size items) :
    0 < piece.length ∧ piece.length ≤ size := by
  induction items using cut_induction positive with
  | nil => exact absurd h List.not_mem_nil
  | cut items some ih =>
    rw [pieces_of_ne_nil positive some] at h
    rcases List.mem_cons.mp h with rfl | later
    · have inside : 0 < items.length := List.length_pos_iff.mpr some
      rw [List.length_take]
      omega
    · exact ih later

/-- All pieces but the last one are whole. -/
theorem length_of_mem_dropLast_pieces (positive : 0 < size) {piece : List α}
    (h : piece ∈ (pieces size items).dropLast) : piece.length = size := by
  induction items using cut_induction positive with
  | nil => exact absurd h List.not_mem_nil
  | cut items some ih =>
    rw [pieces_of_ne_nil positive some] at h
    by_cases done : items.drop size = []
    · rw [done] at h
      exact absurd h List.not_mem_nil
    · have more : pieces size (items.drop size) ≠ [] := by
        rw [pieces_of_ne_nil positive done]
        exact List.cons_ne_nil _ _
      rw [List.dropLast_cons_of_ne_nil more] at h
      rcases List.mem_cons.mp h with rfl | later
      · have past : size < items.length := by simpa using done
        rw [List.length_take]
        omega
      · exact ih later

theorem map_pieces (positive : 0 < size) (f : α → β) (items : List α) :
    (pieces size items).map (List.map f) = pieces size (items.map f) := by
  induction items using cut_induction positive with
  | nil => rfl
  | cut items some ih =>
    have mapped : items.map f ≠ [] := List.map_eq_nil_iff.not.mpr some
    rw [pieces_of_ne_nil positive some, pieces_of_ne_nil positive mapped, List.map_cons, ih,
      List.map_take, List.map_drop]

end Pieces

/-- **The words of ASCII data** are its characters in pieces. -/
theorem wordsOf_ascii {cs : List Char} (ascii : ∀ c ∈ cs, c.toNat < 128) :
    wordsOf (cs.flatMap String.utf8EncodeChar) = (pieces wordDigits cs).map String.ofList := by
  have each : ∀ piece ∈ pieces wordDigits cs,
      Utf8.decodeLossy (piece.map fun c => UInt8.ofNat c.toNat) = String.ofList piece := by
    intro piece there
    rw [← Utf8.encodeChars_ascii fun c hc => ascii c (mem_of_mem_pieces wordDigits_pos there hc),
      Utf8.decodeLossy_encodeChars]
  rw [wordsOf, Utf8.encodeChars_ascii ascii, ← pieces, ← map_pieces wordDigits_pos, List.map_map]
  exact List.map_congr_left each

/-! ## Marks -/

/-- **Text without the marks in front of it:** as many `0x` as there are, and no more. -/
def Unmarked (text rest : List Char) : Prop :=
  ∃ marks, text = (List.replicate marks ['0', 'x']).flatten ++ rest ∧ ¬['0', 'x'] <+: rest

theorem unmarked_dropMarks (cs : List Char) : Unmarked cs (dropMarks cs) := by
  fun_induction dropMarks cs with
  | case1 rest ih =>
    obtain ⟨marks, split, bare⟩ := ih
    refine ⟨marks + 1, ?_, bare⟩
    rw [List.replicate_succ, List.flatten_cons, List.append_assoc, ← split]
    rfl
  | case2 cs bare =>
    refine ⟨0, rfl, ?_⟩
    rintro ⟨rest, rfl⟩
    exact bare rest rfl

/-! ## Words as arguments -/

/-- Words are arguments if each of them can be read. -/
theorem isOk_argsOf (skip : Nat) :
    ∀ (position : Nat) (words : List String),
      (argsOf skip position words).isOk = words.all fun word => (Word.ofScalar? word).isSome
  | _, [] => rfl
  | position, word :: rest => by
    rw [argsOf, List.all_cons, ← isOk_argsOf skip (position + 1)]
    cases Word.ofScalar? word with
    | none => rfl
    | some w => cases argsOf skip (position + 1) rest <;> rfl

/-- **The failure of some words names the first one** that cannot be read. -/
theorem argsOf_eq_error_iff {skip : Nat} {e : BadWord} :
    ∀ {position : Nat} {words : List String}, argsOf skip position words = .error e ↔
      ∃ i, e.position = position + i ∧ words[i]? = some e.word ∧ Word.ofScalar? e.word = none ∧
        ∀ j < i, ∀ word, words[j]? = some word → (Word.ofScalar? word).isSome = true
  | _, [] => by simp [argsOf]
  | position, word :: rest => by
    rw [argsOf]
    cases read : Word.ofScalar? word with
    | none =>
      -- Nothing stands before the first word, and nothing behind it is looked at.
      constructor
      · rintro ⟨⟩
        exact ⟨0, rfl, rfl, read, fun j less => absurd less (Nat.not_lt_zero j)⟩
      · rintro ⟨_ | i, at_, found, -, before⟩
        · cases e
          cases found
          cases at_
          rfl
        · have first := before 0 (Nat.succ_pos i) word rfl
          rw [read] at first
          cases first
    | some w =>
      have later : ((do
          let args ← argsOf skip (position + 1) rest
          return SlotWord.ofWord w (UInt64.ofNat (position - skip)) :: args) = .error e) ↔
          argsOf skip (position + 1) rest = .error e := by
        simp [Fallible.bind_eq_error, pure, Except.pure]
      rw [later, argsOf_eq_error_iff]
      constructor
      · rintro ⟨i, at_, found, bad, before⟩
        refine ⟨i + 1, by omega, found, bad, ?_⟩
        rintro (_ | j) less other there
        · cases there
          rw [read]
          rfl
        · exact before j (Nat.lt_of_succ_lt_succ less) other there
      · rintro ⟨_ | i, at_, found, bad, before⟩
        · cases found
          rw [read] at bad
          cases bad
        · exact ⟨i, by omega, found, bad, fun j less other there =>
            before (j + 1) (Nat.succ_lt_succ less) other there⟩

/-! ## Rows -/

namespace RawLog

/-- **The words of a log:** its topics and then the words of its data. -/
def words (log : RawLog) : List String := log.topics ++ dataWords log.data

/-- How many words of a log are no arguments: the signature, if there is one. -/
def heading (log : RawLog) : Nat := if log.topics.isEmpty then 0 else 1

/-- **A bad word of a log:** one behind the signature that writes no number of 256 bits. -/
def HasBad (log : RawLog) (position : Nat) (word : String) : Prop :=
  log.heading ≤ position ∧ log.words[position]? = some word ∧ ∀ n < 2 ^ 256, ¬IsScalar word n

end RawLog

namespace LogRow

variable {log : RawLog} {row : LogRow}

/-- **Words that a text is cut into:** together they are the text, and all of them are whole but the
last one, which is not empty. -/
structure AreCut (text : List Char) (words : List String) : Prop where
  together : words.flatMap String.toList = text
  whole : ∀ word ∈ words.dropLast, word.length = wordDigits
  bounds : ∀ word ∈ words, 0 < word.length ∧ word.length ≤ wordDigits

/-- **A row that is laid out as its log says.** -/
structure LaidOut (log : RawLog) (row : LogRow) : Prop where
  values : row.values = log.words
  /-- ASCII data without its marks is cut into words, all of which but the last are whole. -/
  data : (∀ c ∈ log.data.toList, c.toNat < 128) → ∃ rest, Unmarked log.data.toList rest ∧
    AreCut rest (dataWords log.data)
  count : row.args.length = row.values.length - log.heading
  slot : ∀ (i : Nat) (a : SlotWord), row.args[i]? = some a → a.slot.toNat = i
  /-- An argument is the number that is written at its place behind the signature. -/
  number : ∀ (i : Nat) (a : SlotWord), row.args[i]? = some a → ∃ word w,
    row.values[i + log.heading]? = some word ∧ IsScalar word w.toNat ∧ a.toWord? = some w
  start : row.dataValuesStart.map UInt64.toNat =
    if log.topics ≠ [] ∧ dataWords log.data ≠ [] then some log.topics.length else none
  signature : row.signature = (log.topics.head?.map lower).getD ""

/-- The row of a log with some arguments. -/
def withArgs (log : RawLog) (args : List SlotWord) : LogRow where
  blockNumber := log.blockNumber
  txIndex := log.txIndex
  logIndex := log.logIndex
  removed := log.removed
  signature := lower (log.topics.head?.getD "")
  address := lower log.address
  values := log.words
  dataValuesStart :=
    if log.topics.isEmpty || (dataWords log.data).isEmpty then none
    else some (UInt64.ofNat log.topics.length)
  args := args

theorem ofLog_eq (log : RawLog) : ofLog log =
    (argsOf log.heading log.heading (log.words.drop log.heading)).map (withArgs log) := by
  have made : ∀ r : Except BadWord (List SlotWord),
      (do let args ← r; return withArgs log args) = r.map (withArgs log) := by
    intro r
    cases r <;> rfl
  exact made _

theorem ofLog_eq_ok_iff : ofLog log = .ok row ↔
    ∃ args, argsOf log.heading log.heading (log.words.drop log.heading) = .ok args ∧
      withArgs log args = row := by
  rw [ofLog_eq, Fallible.map_eq_ok]

theorem hasBad_iff {position : Nat} {word : String} : log.HasBad position word ↔
    ∃ i, position = log.heading + i ∧ (log.words.drop log.heading)[i]? = some word ∧
      Word.ofScalar? word = none := by
  simp only [RawLog.HasBad, ← Word.ofScalar?_eq_none_iff, List.getElem?_drop]
  constructor
  · rintro ⟨behind, found, bad⟩
    exact ⟨position - log.heading, by omega, by rwa [Nat.add_sub_cancel' behind], bad⟩
  · rintro ⟨i, rfl, found, bad⟩
    exact ⟨Nat.le_add_right _ _, found, bad⟩

/-- **A log is refused with its first bad word.** -/
theorem ofLog_eq_error_iff {e : BadWord} : ofLog log = .error e ↔
    log.HasBad e.position e.word ∧ ∀ position < e.position, ∀ word, ¬log.HasBad position word := by
  rw [ofLog_eq, Fallible.map_eq_error, argsOf_eq_error_iff]
  simp only [hasBad_iff]
  constructor
  · rintro ⟨i, at_, found, bad, before⟩
    refine ⟨⟨i, at_, found, bad⟩, ?_⟩
    rintro _ earlier word ⟨j, rfl, there, unread⟩
    have read := before j (by omega) word there
    rw [unread] at read
    cases read
  · rintro ⟨⟨i, at_, found, bad⟩, before⟩
    refine ⟨i, at_, found, bad, ?_⟩
    intro j less word there
    by_contra unread
    exact before (log.heading + j) (by omega) word ⟨j, rfl, there, by simpa using unread⟩

/-- **A log has a row if it has no bad word.** -/
theorem isOk_ofLog : (ofLog log).isOk = true ↔ ∀ position word, ¬log.HasBad position word := by
  constructor
  · intro accepted position word bad
    obtain ⟨row, made⟩ := Fallible.exists_of_isOk accepted
    obtain ⟨args, encoded, -⟩ := ofLog_eq_ok_iff.mp made
    obtain ⟨i, -, found, unread⟩ := hasBad_iff.mp bad
    have all := isOk_argsOf log.heading log.heading (log.words.drop log.heading)
    rw [encoded] at all
    have read := List.all_eq_true.mp all.symm word (List.mem_of_getElem? found)
    rw [unread] at read
    cases read
  · intro good
    cases made : ofLog log with
    | ok row => rfl
    | error e => exact absurd (ofLog_eq_error_iff.mp made).1 (good e.position e.word)

theorem length_words_le (log : RawLog) :
    log.words.length ≤ log.topics.length + (Utf8.encode log.data).length := by
  have cut := length_wordsOf_le log.dataBytes
  have marks := log.length_dataBytes_le
  rw [RawLog.words, List.length_append, dataWords_eq]
  omega

theorem areCut_dataWords (ascii : ∀ c ∈ log.data.toList, c.toNat < 128) :
    AreCut (dropMarks log.data.toList) (dataWords log.data) := by
  have rest : ∀ c ∈ dropMarks log.data.toList, c.toNat < 128 := fun c hc =>
    ascii c ((dropMarks_suffix _).subset hc)
  have cut : dataWords log.data = (pieces wordDigits (dropMarks log.data.toList)).map String.ofList := by
    rw [dataWords_eq, RawLog.dataBytes, Utf8.encode_ofList, wordsOf_ascii rest]
  rw [cut]
  constructor
  case together =>
    rw [List.flatMap_map]
    simp only [String.toList_ofList]
    exact List.flatMap_id.trans (flatten_pieces wordDigits_pos _)
  case whole =>
    intro word there
    rw [← List.map_dropLast, List.mem_map] at there
    obtain ⟨piece, there, rfl⟩ := there
    rw [String.length_ofList]
    exact length_of_mem_dropLast_pieces wordDigits_pos there
  case bounds =>
    intro word there
    obtain ⟨piece, mem, rfl⟩ := List.mem_map.mp there
    rw [String.length_ofList]
    exact length_of_mem_pieces wordDigits_pos mem

/-- **The row of a log is laid out as the log says,** if the log is held in memory. -/
theorem laidOut_of_ofLog (topics : log.topics.length < addressable)
    (data : (Utf8.encode log.data).length < addressable) (made : ofLog log = .ok row) :
    LaidOut log row := by
  obtain ⟨args, encoded, rfl⟩ := ofLog_eq_ok_iff.mp made
  have count : args.length = (log.words.drop log.heading).length := length_of_argsOf encoded
  -- The word at a slot stands as many places behind the heading.
  have at_ : ∀ i, args[i]? = (log.words[log.heading + i]?.bind Word.ofScalar?).map fun w =>
      SlotWord.ofWord w (UInt64.ofNat i) := by
    intro i
    rw [getElem?_of_argsOf encoded, List.getElem?_drop, Nat.add_sub_cancel_left]
  have few := length_words_le log
  unfold addressable at topics data
  constructor
  case values => rfl
  case data => exact fun ascii => ⟨_, unmarked_dropMarks _, areCut_dataWords ascii⟩
  case count => exact count.trans List.length_drop
  case slot =>
    intro i a there
    have inside : i < args.length := (List.getElem?_eq_some_iff.mp there).1
    rw [count, List.length_drop] at inside
    have small : i < 2 ^ 64 := by omega
    obtain ⟨w, -, rfl⟩ := Option.map_eq_some_iff.mp ((at_ i).symm.trans there)
    exact UInt64.toNat_ofNat_of_lt' small
  case number =>
    intro i a there
    obtain ⟨w, read, rfl⟩ := Option.map_eq_some_iff.mp ((at_ i).symm.trans there)
    obtain ⟨word, found, read⟩ := Option.bind_eq_some_iff.mp read
    rw [Nat.add_comm] at found
    exact ⟨word, w, found, Word.ofScalar?_eq_some_iff.mp read, SlotWord.toWord?_ofWord w _⟩
  case start =>
    have small : log.topics.length < 2 ^ 64 := by omega
    have number : (UInt64.ofNat log.topics.length).toNat = log.topics.length :=
      UInt64.toNat_ofNat_of_lt' small
    show Option.map UInt64.toNat (if _ then _ else _) = _
    by_cases noTopics : log.topics = []
    · simp [noTopics]
    · by_cases noData : dataWords log.data = []
      · simp [noData]
      · simp [noTopics, noData, number]
  case signature =>
    show lower (log.topics.head?.getD "") = _
    cases log.topics <;> rfl

/-- **What the row of a log holds,** if the log fits in memory, so that its words can be counted. The
log is refused exactly if one of its words but the signature is no hex scalar of 256 bits, and the
failure names the first such word. Otherwise its row is laid out as the log says: the words as they
were written, and at each slot the number of the word that stands there. -/
theorem rows_are_laid_out (log : RawLog) (topics : log.topics.length < addressable)
    (data : (Utf8.encode log.data).length < addressable) :
    ((ofLog log).isOk = true ↔ ∀ position word, ¬log.HasBad position word) ∧
      (∀ e, ofLog log = .error e ↔ log.HasBad e.position e.word ∧
        ∀ position < e.position, ∀ word, ¬log.HasBad position word) ∧
      (∀ e : BadWord, e.failure.contexts =
        ["Invalid word at position " ++ Number.decimalText e.position]) ∧
      ∀ row, ofLog log = .ok row → LaidOut log row :=
  ⟨isOk_ofLog, fun _ => ofLog_eq_error_iff, fun _ => rfl, fun _ => laidOut_of_ofLog topics data⟩

end LogRow

namespace ShortWord

/-- A log with two topics. -/
def log (data : String) : RawLog := ⟨7, 0, 1, false, "0xA", ["0xAB", " 0X1 "], data⟩

/-- Data of two words after two marks, the second of which is short. -/
def data : String := "0x0x" ++ String.ofList (List.replicate 64 '0') ++ "1f"

theorem short_word_is_laid_out :
    (∃ row, LogRow.ofLog (log data) = .ok row ∧ LogRow.LaidOut (log data) row ∧
      row.args.length = row.values.length - 1) ∧
      LogRow.ofLog (log "0x1g") = .error ⟨2, "1g"⟩ ∧ (log "0x1g").HasBad 2 "1g" := by
  have topics : ∀ data, (log data).topics.length < addressable := fun _ =>
    show 2 < addressable by decide
  obtain ⟨-, -, -, laidOut⟩ := LogRow.rows_are_laid_out (log data) (topics _) (by decide +kernel)
  obtain ⟨-, refused, -⟩ := LogRow.rows_are_laid_out (log "0x1g") (topics _) (by decide +kernel)
  have accepted : (LogRow.ofLog (log data)).isOk = true := by decide +kernel
  have bad : LogRow.ofLog (log "0x1g") = .error ⟨2, "1g"⟩ := by decide +kernel
  obtain ⟨row, made⟩ := Fallible.exists_of_isOk accepted
  exact ⟨⟨row, made, laidOut row made, (laidOut row made).count⟩, bad, ((refused _).mp bad).1⟩

end ShortWord

end TransferLedger
