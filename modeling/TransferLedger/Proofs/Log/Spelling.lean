/-
# TransferLedger.Proofs.Log.Spelling -- how the hex of a log is spelled

What is indexed of a log is its signature in lower case and the number of each word behind it. So
neither the letter case of topics and data nor the marks `0x` in front of the data change it. A mark
`0X` does: it is not dropped from the data, takes the room of two digits in the first word and moves
the bounds of all words by two. Unless the data is zeros up to a last, short word, other numbers are
indexed, or more of them, and nothing is refused.
-/

import TransferLedger.Proofs.Log.Rows
import TransferLedger.Proofs.Text.Casing

namespace TransferLedger

open TransferLedger.Text

/-! ## What is indexed -/

/-- The numbers that the words of a log behind its signature write. -/
def RawLog.numbers (log : RawLog) : List (Option Word) :=
  (log.topics.tail ++ dataWords log.data).map Word.ofScalar?

/-- The numbers of a log, if all of these words write one. -/
def RawLog.arguments? (log : RawLog) : Option (List Word) := log.numbers.mapM id

/-- Numbers at the slots from `first` on. -/
def slotted (ws : List Word) (first : Nat) : List SlotWord :=
  ws.mapIdx fun i w => SlotWord.ofWord w (UInt64.ofNat (first + i))

theorem slotted_cons (w : Word) (ws : List Word) (first : Nat) :
    slotted (w :: ws) first = SlotWord.ofWord w (UInt64.ofNat first) :: slotted ws (first + 1) := by
  simp [slotted, List.mapIdx_cons, Nat.add_assoc, Nat.add_comm 1]

theorem slotted_inj {ws ws' : List Word} {first : Nat} :
    slotted ws first = slotted ws' first ↔ ws = ws' := by
  induction ws generalizing ws' first with
  | nil => cases ws' <;> simp [slotted]
  | cons w ws ih =>
    cases ws' with
    | nil => simp [slotted]
    | cons w' ws' =>
      rw [slotted_cons, slotted_cons, List.cons.injEq, List.cons.injEq, ih, SlotWord.ofWord_inj]
      simp

theorem toOption_argsOf {skip : Nat} :
    ∀ (words : List String) {position : Nat}, skip ≤ position →
      (argsOf skip position words).toOption =
        ((words.map Word.ofScalar?).mapM id).map (slotted · (position - skip))
  | [], _, _ => rfl
  | word :: rest, position, behind => by
    have later := toOption_argsOf rest (Nat.le_succ_of_le behind)
    rw [argsOf, List.map_cons, List.mapM_cons]
    cases read : Word.ofScalar? word with
    | none => rfl
    | some w =>
      -- The rest is numbered from the next slot on.
      have next : position + 1 - skip = position - skip + 1 := by omega
      rw [next] at later
      have made : (argsOf skip (position + 1) rest).toOption.map
          (SlotWord.ofWord w (UInt64.ofNat (position - skip)) :: ·) =
            (((rest.map Word.ofScalar?).mapM id).map (w :: ·)).map (slotted · (position - skip)) := by
        rw [later, Option.map_map, Option.map_map]
        exact congrArg (Option.map · _) (funext fun ws => (slotted_cons w ws _).symm)
      refine Eq.trans ?_ (made.trans ?_)
      · cases argsOf skip (position + 1) rest <;> rfl
      · cases (rest.map Word.ofScalar?).mapM id <;> rfl

namespace LogRow

/-- **What is indexed of a log:** the signature and the arguments of its row, or nothing if it is
refused. -/
def indexed (log : RawLog) : Option (String × List SlotWord) :=
  (ofLog log).toOption.map fun row => (row.signature, row.args)

/-- The signature of a log, which is empty if there are no topics. -/
def signatureOf (log : RawLog) : String := lower (log.topics.head?.getD "")

theorem indexed_eq (log : RawLog) : indexed log =
    log.arguments?.map fun ws => (signatureOf log, slotted ws 0) := by
  have behind : log.words.drop log.heading = log.topics.tail ++ dataWords log.data := by
    unfold RawLog.words RawLog.heading
    cases log.topics <;> rfl
  have args := toOption_argsOf (log.words.drop log.heading) (Nat.le_refl log.heading)
  rw [behind, Nat.sub_self] at args
  have made : indexed log = (argsOf log.heading log.heading (log.words.drop log.heading)).toOption.map
      fun args => (signatureOf log, args) := by
    rw [indexed, ofLog_eq]
    cases argsOf log.heading log.heading (log.words.drop log.heading) <;> rfl
  rw [made, behind, args, Option.map_map]
  rfl

theorem indexed_congr {a b : RawLog} (signature : signatureOf a = signatureOf b)
    (numbers : a.numbers = b.numbers) : indexed a = indexed b := by
  rw [indexed_eq, indexed_eq, RawLog.arguments?, numbers, signature]
  rfl

/-- Two logs of one signature, one of which is not refused, are indexed alike if their words write
the same numbers, and only then. -/
theorem indexed_eq_iff {a b : RawLog} (signature : signatureOf a = signatureOf b)
    (read : ∀ n ∈ a.numbers, n.isSome = true) : indexed a = indexed b ↔ a.numbers = b.numbers := by
  refine ⟨fun same => ?_, indexed_congr signature⟩
  obtain ⟨ws, read⟩ := Fallible.exists_map_some read
  have arguments : a.arguments? = some ws := Fallible.mapM_id_eq_some_iff.mpr read
  rw [indexed_eq, indexed_eq, arguments] at same
  cases other : b.arguments? with
  | none =>
    rw [other] at same
    cases same
  | some ws' =>
    rw [other, Option.map_some, Option.map_some, Option.some.injEq, Prod.mk.injEq,
      slotted_inj] at same
    rw [read, same.2]
    exact (Fallible.mapM_id_eq_some_iff.mp other).symm

/-- A log is refused if one of its words writes no number. -/
theorem indexed_eq_none {a : RawLog} (unread : none ∈ a.numbers) : indexed a = none := by
  rw [indexed_eq]
  cases read : a.arguments? with
  | none => rfl
  | some ws =>
    rw [Fallible.mapM_id_eq_some_iff.mp read] at unread
    simp at unread

end LogRow

/-! ## Spellings -/

/-- **Two spellings of one log,** which differ in the letter case of their topics and their data and in
the marks in front of the data. -/
structure RawLog.Respelled (a b : RawLog) : Prop where
  others : { b with topics := a.topics, data := a.data } = a
  topics : a.topics.map lower = b.topics.map lower
  data : dropMarks (lower a.data).toList = dropMarks (lower b.data).toList

/-- Whether a mark with the large letter stands in front of the data, behind those that are dropped. -/
def RawLog.UpperMarked (log : RawLog) : Prop := ['0', 'X'] <+: dropMarks log.data.toList

instance (log : RawLog) : Decidable log.UpperMarked :=
  inferInstanceAs (Decidable (['0', 'X'] <+: dropMarks log.data.toList))

theorem dropMarks_of_unmarked {cs : List Char} (h : ¬['0', 'x'] <+: cs) : dropMarks cs = cs := by
  fun_cases dropMarks cs with
  | case1 rest => exact absurd ⟨rest, rfl⟩ h
  | case2 => rfl

theorem dropMarks_map_toLower {cs : List Char} (h : ¬['0', 'X'] <+: dropMarks cs) :
    dropMarks (cs.map Char.toLower) = (dropMarks cs).map Char.toLower := by
  fun_induction dropMarks cs with
  | case1 rest ih => exact ih h
  | case2 cs bare =>
    -- Nothing in front of `cs` is a mark in any letter case.
    apply dropMarks_of_unmarked
    rintro ⟨rest, marked⟩
    have front : afterHexMark? cs = none := by
      unfold afterHexMark?
      split
      case h_1 rest => exact (bare rest rfl).elim
      case h_2 rest => exact (h ⟨rest, rfl⟩).elim
      case h_3 => rfl
    have lowered := afterHexMark?_map_toLower cs
    rw [front, ← marked] at lowered
    cases lowered

/-- What the words of some characters write. -/
def readings (cs : List Char) : List (Option Word) :=
  (wordsOf (cs.flatMap String.utf8EncodeChar)).map Word.ofScalar?

theorem numbers_eq (log : RawLog) : log.numbers =
    log.topics.tail.map Word.ofScalar? ++ readings (dropMarks log.data.toList) := by
  rw [RawLog.numbers, List.map_append, dataWords_eq, RawLog.dataBytes, Utf8.encode_ofList, readings]

theorem wordsOf_map_lowerByte (bytes : List UInt8) :
    wordsOf (bytes.map Utf8.lowerByte) = (wordsOf bytes).map lower := by
  have each : Utf8.decodeLossy ∘ List.map Utf8.lowerByte = lower ∘ Utf8.decodeLossy :=
    funext Utf8.decodeLossy_map_lowerByte
  rw [wordsOf, ← pieces, ← map_pieces wordDigits_pos, List.map_map, each, ← List.map_map]
  rfl

theorem readings_map_toLower (cs : List Char) : readings (cs.map Char.toLower) = readings cs := by
  rw [readings, Utf8.encodeChars_toLower, wordsOf_map_lowerByte, List.map_map, ofScalar?_comp_lower,
    ← readings]

theorem signatureOf_congr {a b : RawLog} (topics : a.topics.map lower = b.topics.map lower) :
    LogRow.signatureOf a = LogRow.signatureOf b := by
  have front : ∀ log : RawLog, LogRow.signatureOf log = ((log.topics.map lower).head?).getD "" := by
    intro log
    unfold LogRow.signatureOf
    cases log.topics <;> rfl
  rw [front, front, topics]

theorem numbers_of_topics {a b : RawLog} (topics : a.topics.map lower = b.topics.map lower) :
    a.topics.tail.map Word.ofScalar? = b.topics.tail.map Word.ofScalar? := by
  have behind := congrArg (fun ts => ts.tail.map Word.ofScalar?) topics
  simpa only [← List.map_tail, List.map_map, ofScalar?_comp_lower] using behind

/-- **Logs that differ in letter case only, once the marks are dropped, are indexed alike.** -/
theorem indexed_of_alike {a b : RawLog} (topics : a.topics.map lower = b.topics.map lower)
    (data : (dropMarks a.data.toList).map Char.toLower = (dropMarks b.data.toList).map Char.toLower) :
    LogRow.indexed a = LogRow.indexed b := by
  apply LogRow.indexed_congr (signatureOf_congr topics)
  rw [numbers_eq, numbers_eq, numbers_of_topics topics, ← readings_map_toLower, data,
    readings_map_toLower]

/-! ## Moved bounds -/

variable {digits : List Char}

/-- The number that some characters write. -/
def reading (cs : List Char) : Option Word := Word.ofScalar? (String.ofList cs)

theorem readings_ascii {cs : List Char} (ascii : ∀ c ∈ cs, c.toNat < 128) :
    readings cs = (pieces wordDigits cs).map reading := by
  rw [readings, wordsOf_ascii ascii, List.map_map]
  rfl

/-- Digits write the number that they denote. -/
theorem reading_of_hex (nonempty : digits ≠ []) (hex : IsHex digits) :
    reading digits = (hexNat? digits).bind Word.ofNat? := by
  have bare : [] ∈ hexMarks := by decide
  exact Word.ofScalar?_of_hex String.toList_ofList bare nonempty hex

/-- Behind a mark with the large letter they write the same. -/
theorem reading_of_upperMarked (nonempty : digits ≠ []) (hex : IsHex digits) :
    reading ('0' :: 'X' :: digits) = (hexNat? digits).bind Word.ofNat? := by
  have upper : ['0', 'X'] ∈ hexMarks := by decide
  exact Word.ofScalar?_of_hex String.toList_ofList upper nonempty hex

/-- Two zeros in front do not change what digits write. -/
theorem reading_zeros (hex : IsHex digits) :
    reading ('0' :: '0' :: digits) = (hexNat? digits).bind Word.ofNat? := by
  have all : IsHex ('0' :: '0' :: digits) := (IsHex.zeros 2).append hex
  have same : hexNat? ('0' :: '0' :: digits) = hexNat? digits := hexNat?_zeros 2 digits
  rw [reading_of_hex (List.cons_ne_nil _ _) all, same]

theorem ofNat?_inj {m n : Nat} (small : m < 2 ^ 256) : Word.ofNat? m = Word.ofNat? n ↔ m = n := by
  refine ⟨fun same => ?_, congrArg Word.ofNat?⟩
  have fits : Word.ofNat? m = some (BitVec.ofNatLT m small) := dif_pos small
  exact Word.toNat_of_ofNat? (same.symm.trans fits)

/-- A whole word that loses two digits at the end to two zeros in front writes the same number only if
it is zero. -/
theorem reading_moved {front back : List Char} (whole : front.length + 2 = wordDigits)
    (two : back.length = 2) (hex : IsHex (front ++ back)) :
    reading (front ++ back) = reading ('0' :: '0' :: front) ↔ ∀ c ∈ front ++ back, c = '0' := by
  obtain ⟨m, smallFront, atFront⟩ := hexNat?_of_digits hex.left
  obtain ⟨n, -, atBack⟩ := hexNat?_of_digits hex.right
  have all : hexNat? (front ++ back) = some (n + 256 * m) := by
    rw [hexNat?_append atFront atBack, two]
  have small : m < 2 ^ 256 := by
    have short : front.length = 62 := by
      unfold wordDigits at whole
      omega
    rw [short] at smallFront
    exact Nat.lt_trans smallFront (by decide)
  have some : front ++ back ≠ [] := by
    rintro none
    rw [(List.append_eq_nil_iff.mp none).2] at two
    cases two
  -- The digits in front denote `m`, and all digits `n + 256 * m`.
  rw [reading_of_hex some hex, reading_zeros hex.left, all, atFront, Option.bind_some, Option.bind_some,
    eq_comm, ofNat?_inj small, ← hexNat?_eq_zero_iff hex, all, Option.some.injEq]
  omega

/-- **Digits that can be moved by two unseen:** zeros that fill some words, and then at least one digit
and so few that two more stand in the same word. -/
def MovesUnseen (digits : List Char) : Prop :=
  ∃ words rest, digits = List.replicate (wordDigits * words) '0' ++ rest ∧
    0 < rest.length ∧ rest.length + 2 ≤ wordDigits

theorem movesUnseen_of_short (short : digits.length < wordDigits) :
    MovesUnseen digits ↔ 0 < digits.length ∧ digits.length + 2 ≤ wordDigits := by
  constructor
  · rintro ⟨words, rest, rfl, some, fits⟩
    rw [List.length_append, List.length_replicate] at short ⊢
    cases words with
    | zero => exact ⟨by omega, by omega⟩
    | succ words =>
      rw [Nat.mul_succ] at short
      omega
  · rintro ⟨some, fits⟩
    exact ⟨0, digits, rfl, some, fits⟩

theorem not_movesUnseen_nil : ¬MovesUnseen [] := by
  have empty : ([] : List Char).length < wordDigits := wordDigits_pos
  rw [movesUnseen_of_short empty]
  exact fun h => absurd h.1 (Nat.lt_irrefl 0)

theorem movesUnseen_append {word rest : List Char} (whole : word.length = wordDigits) :
    MovesUnseen (word ++ rest) ↔ (∀ c ∈ word, c = '0') ∧ MovesUnseen rest := by
  constructor
  · rintro ⟨words, last, split, some, fits⟩
    cases words with
    | zero =>
      have count := congrArg List.length split
      rw [List.length_append, List.length_append, List.length_replicate, whole] at count
      omega
    | succ words =>
      rw [Nat.mul_succ, Nat.add_comm, List.replicate_add, List.append_assoc] at split
      obtain ⟨first, later⟩ := List.append_inj split (by rw [whole, List.length_replicate])
      refine ⟨?_, words, last, later, some, fits⟩
      rw [first]
      exact fun c hc => List.eq_of_mem_replicate hc
  · rintro ⟨zeros, words, last, rfl, some, fits⟩
    refine ⟨words + 1, last, ?_, some, fits⟩
    rw [Nat.mul_succ, Nat.add_comm, List.replicate_add, List.append_assoc,
      ← List.eq_replicate_iff.mpr ⟨whole, zeros⟩]

theorem pieces_of_le {items : List Char} (some : items ≠ []) (short : items.length ≤ wordDigits) :
    pieces wordDigits items = [items] := by
  rw [pieces_of_ne_nil wordDigits_pos some, List.take_of_length_le short,
    List.drop_eq_nil_of_le short]
  rfl

/-- Fewer digits than a word has write the same with two more zeros if all of them stand in one word. -/
theorem pieces_moved_of_short (some : digits ≠ []) (short : digits.length < wordDigits)
    (hex : IsHex digits) :
    (pieces wordDigits digits).map reading = (pieces wordDigits ('0' :: '0' :: digits)).map reading ↔
      digits.length + 2 ≤ wordDigits := by
  rw [pieces_of_le some (Nat.le_of_lt short), List.map_singleton]
  constructor
  · intro same
    by_contra long
    have rest : ('0' :: '0' :: digits).drop wordDigits ≠ [] := by
      rw [Ne, List.drop_eq_nil_iff]
      exact long
    rw [pieces_of_ne_nil wordDigits_pos (List.cons_ne_nil _ _), pieces_of_ne_nil wordDigits_pos rest]
      at same
    exact absurd (congrArg List.length same) (by simp)
  · intro fits
    have one : pieces wordDigits ('0' :: '0' :: digits) = ['0' :: '0' :: digits] :=
      pieces_of_le (List.cons_ne_nil _ _) fits
    rw [one, List.map_singleton, reading_of_hex some hex, reading_zeros hex]

/-- **A whole word in front** has to be zero, and then the same is asked of the rest. -/
theorem pieces_moved_of_whole {front back rest : List Char} (whole : front.length + 2 = wordDigits)
    (two : back.length = 2) (hex : IsHex (front ++ back)) :
    (pieces wordDigits (front ++ back ++ rest)).map reading =
        (pieces wordDigits ('0' :: '0' :: (front ++ back ++ rest))).map reading ↔
      (∀ c ∈ front ++ back, c = '0') ∧ (pieces wordDigits rest).map reading =
        (pieces wordDigits ('0' :: '0' :: rest)).map reading := by
  -- Behind the two zeros the first piece ends two digits earlier, and these go to the next piece.
  have all : (front ++ back).length = wordDigits := by rw [List.length_append, two, whole]
  have cut : pieces wordDigits (front ++ back ++ rest) = (front ++ back) :: pieces wordDigits rest := by
    have some : front ++ back ++ rest ≠ [] := by
      intro none
      have count := congrArg List.length none
      rw [List.length_append, all] at count
      exact absurd count (by simp [wordDigits])
    rw [pieces_of_ne_nil wordDigits_pos some, List.take_left' all, List.drop_left' all]
  have moved : pieces wordDigits ('0' :: '0' :: (front ++ back ++ rest)) =
      ('0' :: '0' :: front) :: pieces wordDigits (back ++ rest) := by
    have first : ('0' :: '0' :: front).length = wordDigits := whole
    have split : '0' :: '0' :: (front ++ back ++ rest) = ('0' :: '0' :: front) ++ (back ++ rest) := by
      simp
    rw [split, pieces_of_ne_nil wordDigits_pos (by simp), List.take_left' first,
      List.drop_left' first]
  rw [cut, moved, List.map_cons, List.map_cons, List.cons.injEq, reading_moved whole two hex]
  refine and_congr_right fun zeros => ?_
  have back_eq : back = ['0', '0'] :=
    List.eq_replicate_iff.mpr ⟨two, fun c hc => zeros c (List.mem_append_right front hc)⟩
  rw [back_eq]
  rfl

/-- **Two zeros in front of some digits move the bounds of the words,** which is not seen in what the
words write only if all words are zero but a last one that has room for two more digits. -/
theorem pieces_moved (hex : IsHex digits) :
    (pieces wordDigits digits).map reading = (pieces wordDigits ('0' :: '0' :: digits)).map reading ↔
      MovesUnseen digits := by
  induction digits using cut_induction wordDigits_pos with
  | nil =>
    simp [not_movesUnseen_nil, pieces, chunksUpTo]
  | cut items some ih =>
    by_cases short : items.length < wordDigits
    · rw [movesUnseen_of_short short, pieces_moved_of_short some short hex]
      simp [List.length_pos_iff.mpr some]
    · -- The first word gives its last two digits to the next one.
      obtain ⟨front, back, split, whole, two⟩ : ∃ front back, items.take wordDigits = front ++ back ∧
          front.length + 2 = wordDigits ∧ back.length = 2 := by
        have cut : items.take (62 + 2) = items.take 62 ++ (items.drop 62).take 2 := List.take_add
        refine ⟨_, _, cut, ?_, ?_⟩ <;>
          simp only [List.length_take, List.length_drop, wordDigits] at short ⊢ <;> omega
      have hexFirst := hex.take wordDigits
      rw [split] at hexFirst
      rw [← List.take_append_drop wordDigits items, split, pieces_moved_of_whole whole two hexFirst,
        ih (hex.drop wordDigits), movesUnseen_append (by rw [List.length_append, two, whole])]

/-! ## What a spelling changes -/

theorem readings_of_hex (hex : IsHex digits) :
    readings digits = (pieces wordDigits digits).map reading :=
  readings_ascii hex.ascii

/-- Digits are refused nowhere. -/
theorem isSome_of_mem_readings (hex : IsHex digits) : ∀ n ∈ readings digits, n.isSome = true := by
  rw [readings_of_hex hex]
  intro n there
  obtain ⟨piece, mem, rfl⟩ := List.mem_map.mp there
  obtain ⟨positive, short⟩ := length_of_mem_pieces wordDigits_pos mem
  have hexPiece : IsHex piece := fun c hc => hex c (mem_of_mem_pieces wordDigits_pos mem hc)
  obtain ⟨n, small, number⟩ := hexNat?_of_digits hexPiece
  have fits : n < 2 ^ 256 := Nat.lt_of_lt_of_le small (Nat.pow_le_pow_right (by decide) short)
  rw [reading_of_hex (List.length_pos_iff.mp positive) hexPiece, number, Option.bind_some, Word.ofNat?,
    dif_pos fits]
  rfl

/-- **The words of digits behind a mark with the large letter** write what they would behind two zeros,
if there are any digits. -/
theorem readings_of_upperMarked (some : digits ≠ []) (hex : IsHex digits) :
    readings ('0' :: 'X' :: digits) = (pieces wordDigits ('0' :: '0' :: digits)).map reading := by
  have ascii : ∀ c ∈ '0' :: 'X' :: digits, c.toNat < 128 :=
    List.forall_mem_cons.mpr ⟨by decide, List.forall_mem_cons.mpr ⟨by decide, hex.ascii⟩⟩
  have front : digits.take 62 ≠ [] := by simpa using some
  have hexFront := hex.take 62
  have first : reading ('0' :: 'X' :: digits.take 62) = reading ('0' :: '0' :: digits.take 62) :=
    (reading_of_upperMarked front hexFront).trans (reading_zeros hexFront).symm
  rw [readings_ascii ascii, pieces_of_ne_nil wordDigits_pos (List.cons_ne_nil _ _),
    pieces_of_ne_nil wordDigits_pos (List.cons_ne_nil '0' _), List.map_cons, List.map_cons]
  exact congrArg (· :: _) first

/-- A mark with the large letter and nothing behind it is refused. -/
theorem readings_upperMark : readings ['0', 'X'] = [none] := by decide +kernel

/-- **An upper-case mark of the data is not seen** only if the digits behind it can be moved by two. -/
theorem readings_upperMarked_iff (hex : IsHex digits) :
    readings digits = readings ('0' :: 'X' :: digits) ↔ MovesUnseen digits := by
  by_cases some : digits = []
  · subst some
    have none : readings [] = [] := rfl
    simp [readings_upperMark, none, not_movesUnseen_nil]
  · rw [readings_of_upperMarked some hex, readings_of_hex hex, pieces_moved hex]

/-! ## Data in hex -/

/-- Data of hex digits behind a mark or none. -/
structure RawLog.HexData (log : RawLog) (mark digits : List Char) : Prop where
  written : log.data.toList = mark ++ digits
  marked : mark ∈ hexMarks
  hex : IsHex digits

/-- What is left of such data where the marks are dropped: a mark with the large letter is. -/
def keptData (mark digits : List Char) : List Char :=
  if mark = ['0', 'X'] then '0' :: 'X' :: digits else digits

theorem dropMarks_of_hex (hex : IsHex digits) :
    dropMarks digits = digits := by
  apply dropMarks_of_unmarked
  rintro ⟨rest, rfl⟩
  exact absurd (hex 'x' (by simp)) (by decide)

/-- Letter case is not seen in what the words of kept data write. -/
theorem readings_keptData {digits' : List Char} (mark : List Char)
    (same : digits.map Char.toLower = digits'.map Char.toLower) :
    readings (keptData mark digits) = readings (keptData mark digits') := by
  rw [← readings_map_toLower, ← readings_map_toLower (keptData mark digits')]
  unfold keptData
  split
  · rw [List.map_cons, List.map_cons, List.map_cons, List.map_cons, same]
  · rw [same]

namespace RawLog

variable {log a b : RawLog} {mark mark' digits' : List Char}

theorem HexData.numbers_eq (h : log.HexData mark digits) :
    log.numbers = log.topics.tail.map Word.ofScalar? ++ readings (keptData mark digits) := by
  have kept : dropMarks log.data.toList = keptData mark digits := by
    have marked := h.marked
    rw [h.written]
    simp only [hexMarks, List.mem_cons, List.not_mem_nil, or_false] at marked
    rcases marked with rfl | rfl | rfl
    · exact dropMarks_of_hex h.hex
    · exact dropMarks_of_hex h.hex
    · rfl
  rw [TransferLedger.numbers_eq, kept]

/-- In lower case the mark is dropped, whichever it is. -/
theorem HexData.dropMarks_lower (h : log.HexData mark digits) :
    dropMarks (lower log.data).toList = digits.map Char.toLower := by
  have marked := h.marked
  rw [toList_lower, h.written, List.map_append]
  simp only [hexMarks, List.mem_cons, List.not_mem_nil, or_false] at marked
  rcases marked with rfl | rfl | rfl <;> exact dropMarks_of_hex h.hex.map_toLower

theorem Respelled.digits_eq (h : Respelled a b) (dataA : a.HexData mark digits)
    (dataB : b.HexData mark' digits') : digits.map Char.toLower = digits'.map Char.toLower := by
  rw [← dataA.dropMarks_lower, ← dataB.dropMarks_lower, h.data]

/-- Where the marks are dropped from both spellings, the rest differs in letter case only. -/
theorem Respelled.alike (h : Respelled a b) (plainA : ¬a.UpperMarked) (plainB : ¬b.UpperMarked) :
    (dropMarks a.data.toList).map Char.toLower = (dropMarks b.data.toList).map Char.toLower := by
  have same := h.data
  rwa [toList_lower, toList_lower, dropMarks_map_toLower plainA, dropMarks_map_toLower plainB] at same

end RawLog

namespace LogRow

variable {a b : RawLog}

/-- **Digits behind an upper-case mark** are indexed as they are without it only if they can be moved by
two unseen. -/
theorem indexed_eq_iff_movesUnseen (signature : signatureOf a = signatureOf b)
    {topics : List (Option Word)} (read : ∀ n ∈ topics, n.isSome = true) (hex : IsHex digits)
    (plain : a.numbers = topics ++ readings digits)
    (upper : b.numbers = topics ++ readings ('0' :: 'X' :: digits)) :
    indexed a = indexed b ↔ MovesUnseen digits := by
  have readAll : ∀ n ∈ a.numbers, n.isSome = true := by
    rw [plain]
    intro n there
    rcases List.mem_append.mp there with topic | digit
    · exact read n topic
    · exact isSome_of_mem_readings hex n digit
  rw [indexed_eq_iff signature readAll, plain, upper, List.append_cancel_left_eq,
    readings_upperMarked_iff hex]

/-- **The spelling of a log is of no account, but for an upper-case mark of its data.** Two spellings
of a log are indexed alike, or both refused, if no mark `0X` is left in front of the data of either.
Where the data is hex, they are exactly if both have an upper-case mark or none has, if the log is
refused for one of its topics anyway, or if the digits can be moved by two unseen. -/
theorem indexed_of_respelled (spelled : RawLog.Respelled a b) :
    (¬a.UpperMarked → ¬b.UpperMarked → indexed a = indexed b) ∧
      ∀ mark mark' digits digits' : List Char,
        a.HexData mark digits → b.HexData mark' digits' →
          (indexed a = indexed b ↔ (mark = ['0', 'X'] ↔ mark' = ['0', 'X']) ∨
            (∃ word ∈ a.topics.tail, Word.ofScalar? word = none) ∨ MovesUnseen digits) := by
  refine ⟨fun plainA plainB => indexed_of_alike spelled.topics (spelled.alike plainA plainB), ?_⟩
  intro mark mark' digits digits' dataA dataB
  have signature := signatureOf_congr spelled.topics
  have numbersA := dataA.numbers_eq
  have numbersB := dataB.numbers_eq
  rw [← numbers_of_topics spelled.topics,
    ← readings_keptData mark' (spelled.digits_eq dataA dataB)] at numbersB
  by_cases unread : ∃ word ∈ a.topics.tail, Word.ofScalar? word = none
  · obtain ⟨word, there, bad⟩ := unread
    have missing : none ∈ a.topics.tail.map Word.ofScalar? := List.mem_map.mpr ⟨word, there, bad⟩
    have refusedA := indexed_eq_none (a := a) (numbersA ▸ List.mem_append_left _ missing)
    have refusedB := indexed_eq_none (a := b) (numbersB ▸ List.mem_append_left _ missing)
    exact iff_of_true (refusedA.trans refusedB.symm) (.inr (.inl ⟨word, there, bad⟩))
  have read : ∀ n ∈ a.topics.tail.map Word.ofScalar?, n.isSome = true := by
    intro n topic
    obtain ⟨word, mem, rfl⟩ := List.mem_map.mp topic
    exact Option.isSome_iff_ne_none.mpr fun bad => unread ⟨word, mem, bad⟩
  -- The mark is kept in both, in one or in none.
  unfold keptData at numbersA numbersB
  by_cases upperA : mark = ['0', 'X'] <;> by_cases upperB : mark' = ['0', 'X']
  · rw [if_pos upperA] at numbersA
    rw [if_pos upperB] at numbersB
    have same := indexed_congr signature (numbersA.trans numbersB.symm)
    exact iff_of_true same (.inl (iff_of_true upperA upperB))
  · rw [if_pos upperA] at numbersA
    rw [if_neg upperB] at numbersB
    rw [eq_comm, indexed_eq_iff_movesUnseen signature.symm read dataA.hex numbersB numbersA]
    simp [upperA, upperB, unread]
  · rw [if_neg upperA] at numbersA
    rw [if_pos upperB] at numbersB
    rw [indexed_eq_iff_movesUnseen signature read dataA.hex numbersA numbersB]
    simp [upperA, upperB, unread]
  · rw [if_neg upperA] at numbersA
    rw [if_neg upperB] at numbersB
    have same := indexed_congr signature (numbersA.trans numbersB.symm)
    exact iff_of_true same (.inl (iff_of_false upperA upperB))

end LogRow

namespace UpperMark

/-- A log with two topics. -/
def log (signature topic : String) (data : List Char) : RawLog :=
  ⟨7, 0, 1, false, "0xA", [signature, topic], String.ofList data⟩

/-- The digits of a whole word of the number 1000. -/
def thousand : List Char := List.replicate 61 '0' ++ ['3', 'e', '8']

/-- **Behind an upper-case mark the number 1000 is indexed as the numbers 3 and 232,** and nothing is
refused. -/
theorem number_is_split :
    RawLog.Respelled (log "0xab" "0x1f" (['0', 'x'] ++ thousand))
        (log "0xab" "0x1f" (['0', 'X'] ++ thousand)) ∧
      LogRow.indexed (log "0xab" "0x1f" (['0', 'x'] ++ thousand)) =
        some ("0xab", [SlotWord.ofWord 0x1f 0, SlotWord.ofWord 1000 1]) ∧
      LogRow.indexed (log "0xab" "0x1f" (['0', 'X'] ++ thousand)) =
        some ("0xab", [SlotWord.ofWord 0x1f 0, SlotWord.ofWord 3 1, SlotWord.ofWord 232 2]) ∧
      LogRow.indexed (log "0xab" "0x1f" (['0', 'x'] ++ thousand)) ≠
        LogRow.indexed (log "0xab" "0x1f" (['0', 'X'] ++ thousand)) := by
  have spelled : RawLog.Respelled (log "0xab" "0x1f" (['0', 'x'] ++ thousand))
      (log "0xab" "0x1f" (['0', 'X'] ++ thousand)) := by
    refine ⟨rfl, rfl, ?_⟩
    simp only [log, toList_lower, String.toList_ofList]
    rfl
  have plain : LogRow.indexed (log "0xab" "0x1f" (['0', 'x'] ++ thousand)) =
      some ("0xab", [SlotWord.ofWord 0x1f 0, SlotWord.ofWord 1000 1]) := by decide +kernel
  have upper : LogRow.indexed (log "0xab" "0x1f" (['0', 'X'] ++ thousand)) =
      some ("0xab", [SlotWord.ofWord 0x1f 0, SlotWord.ofWord 3 1, SlotWord.ofWord 232 2]) := by
    decide +kernel
  refine ⟨spelled, plain, upper, ?_⟩
  rw [plain, upper]
  exact fun same => absurd (congrArg (Option.map (·.2.length)) same) (by decide)

/-- Letter case and dropped marks are of no account, and a short word keeps its number even behind an
upper-case mark. -/
theorem short_word_is_kept :
    LogRow.indexed (log "0XAB" "0X1F" (['0', 'x'] ++ thousand)) =
        LogRow.indexed (log "0xab" "0x1f" thousand) ∧
      LogRow.indexed (log "0xab" "0x1f" ['3', 'e', '8']) =
        LogRow.indexed (log "0xAB" "0X1f" (['0', 'X'] ++ ['3', 'E', '8'])) := by
  have marked : RawLog.Respelled (log "0XAB" "0X1F" (['0', 'x'] ++ thousand))
      (log "0xab" "0x1f" thousand) := by
    refine ⟨rfl, by decide +kernel, ?_⟩
    simp only [log, toList_lower, String.toList_ofList]
    rfl
  have short : RawLog.Respelled (log "0xab" "0x1f" ['3', 'e', '8'])
      (log "0xAB" "0X1f" (['0', 'X'] ++ ['3', 'E', '8'])) := by
    refine ⟨rfl, by decide +kernel, ?_⟩
    simp only [log, toList_lower, String.toList_ofList]
    rfl
  obtain ⟨plain, -⟩ := LogRow.indexed_of_respelled marked
  obtain ⟨-, upper⟩ := LogRow.indexed_of_respelled short
  constructor
  · apply plain
    · simp only [RawLog.UpperMarked, log, String.toList_ofList]
      decide
    · simp only [RawLog.UpperMarked, log, String.toList_ofList]
      decide
  · have plainData : (log "0xab" "0x1f" ['3', 'e', '8']).HexData [] ['3', 'e', '8'] :=
      ⟨String.toList_ofList, by decide, List.all_eq_true.mp (by decide)⟩
    have upperData : (log "0xAB" "0X1f" (['0', 'X'] ++ ['3', 'E', '8'])).HexData ['0', 'X']
        ['3', 'E', '8'] := ⟨String.toList_ofList, by decide, List.all_eq_true.mp (by decide)⟩
    refine (upper _ _ _ _ plainData upperData).mpr (.inr (.inr ?_))
    exact ⟨0, ['3', 'e', '8'], rfl, by decide, by decide⟩

end UpperMark

end TransferLedger
