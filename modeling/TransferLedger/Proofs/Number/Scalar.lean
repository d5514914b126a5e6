/-
# TransferLedger.Proofs.Number.Scalar -- which texts are hex scalars, and of which number

A hex scalar is a run of at least one hex digit, in any letter case and with any zeros in front,
perhaps after a mark, and between blanks. `IsScalar` says so by the parts of the text and gives the
number by the places of its digits, without trimming or reading anything. The reader of words takes
exactly the texts that are so written and whose number is below 2^256, and answers that number.
-/

import Mathlib.Data.List.TakeWhile
import Mathlib.Data.Nat.Digits.Lemmas
import Mathlib.Tactic.Ring
import TransferLedger.Proofs.Number.Hex

namespace TransferLedger.Text

/-! ## Digits by their places -/

/-- The hex figures, each at the place of its value. -/
def hexFigures : List Char := "0123456789abcdef".toList

/-- The value of a character is the place of its lower case among the figures. -/
theorem hexValue?_eq_idxOf? (c : Char) : hexValue? c = hexFigures.idxOf? c.toLower := by
  refine char_cases (p := fun c => hexValue? c = hexFigures.idxOf? c.toLower)
    (by decide +kernel) (fun c large same => ?_) c
  have low : hexFigures.all (·.toNat < 128) = true := by decide +kernel
  have absent : c ∉ hexFigures := by
    intro there
    have below := of_decide_eq_true (List.all_eq_true.mp low c there)
    omega
  rw [hexValue?_of_le large, same, List.idxOf?_eq_none_iff.mpr absent]

/-- **Digits that denote a number,** the most significant first. -/
def DigitsDenote (cs : List Char) (n : Nat) : Prop :=
  ∃ values : List Nat, cs.map (fun c => hexFigures.idxOf? c.toLower) = values.map some ∧
    n = Nat.ofDigits 16 values.reverse

theorem hexNat?_eq_some_iff {cs : List Char} {n : Nat} :
    hexNat? cs = some n ↔ DigitsDenote cs n := by
  -- What was read before the digits moves up by as many places as there are digits.
  suffices go : ∀ m n, cs.foldlM (fun n c => (hexValue? c).map (16 * n + ·)) m = some n ↔
      ∃ values : List Nat, cs.map hexValue? = values.map some ∧
        n = Nat.ofDigits 16 values.reverse + 16 ^ values.length * m by
    have start := go 0 n
    simp only [Nat.mul_zero, Nat.add_zero] at start
    rw [hexNat?, start, DigitsDenote, funext hexValue?_eq_idxOf?]
  induction cs with
  | nil =>
    intro m n
    constructor
    · rintro ⟨⟩
      exact ⟨[], rfl, by simp⟩
    · rintro ⟨values, same, rfl⟩
      cases List.map_eq_nil_iff.mp same.symm
      simp
  | cons c cs ih =>
    intro m n
    rw [List.foldlM_cons, List.map_cons]
    cases hexValue? c with
    | none =>
      simp only [Option.map_none, Option.bind_eq_bind, Option.bind_none, reduceCtorEq, false_iff]
      rintro ⟨values, same, -⟩
      cases values <;> simp at same
    | some v =>
      have place : ∀ values : List Nat,
          Nat.ofDigits 16 (v :: values).reverse + 16 ^ (v :: values).length * m =
            Nat.ofDigits 16 values.reverse + 16 ^ values.length * (16 * m + v) := by
        intro values
        rw [List.reverse_cons, Nat.ofDigits_append, Nat.ofDigits_singleton, List.length_reverse,
          List.length_cons, Nat.pow_succ]
        ring
      rw [Option.map_some, Option.bind_eq_bind, Option.bind_some, ih]
      constructor
      · rintro ⟨values, same, rfl⟩
        exact ⟨v :: values, by rw [same, List.map_cons], (place values).symm⟩
      · rintro ⟨_ | ⟨w, values⟩, same, rfl⟩
        · exact absurd same (List.cons_ne_nil _ _)
        · obtain ⟨head, tail⟩ := List.cons.inj same
          cases head
          exact ⟨values, tail, place values⟩

theorem DigitsDenote.hex {cs : List Char} {n : Nat} (h : DigitsDenote cs n) : IsHex cs := by
  obtain ⟨values, same, -⟩ := h
  intro c hc
  have mem : hexFigures.idxOf? c.toLower ∈ values.map some := by
    rw [← same]
    exact List.mem_map_of_mem hc
  obtain ⟨v, -, hv⟩ := List.mem_map.mp mem
  rw [hexValue?_eq_idxOf?, ← hv]
  rfl

/-- Digits in front count for as many places as there are digits behind them. -/
theorem hexNat?_append {front back : List Char} {m n : Nat} (hm : hexNat? front = some m)
    (hn : hexNat? back = some n) :
    hexNat? (front ++ back) = some (n + 16 ^ back.length * m) := by
  obtain ⟨before, sameFront, rfl⟩ := hexNat?_eq_some_iff.mp hm
  obtain ⟨after, sameBack, rfl⟩ := hexNat?_eq_some_iff.mp hn
  have places : back.length = after.reverse.length := by
    simpa using congrArg List.length sameBack
  rw [hexNat?_eq_some_iff]
  refine ⟨before ++ after, ?_, ?_⟩
  · rw [List.map_append, sameFront, sameBack, ← List.map_append]
  · rw [List.reverse_append, Nat.ofDigits_append, places]

theorem hexValue?_eq_zero_iff (c : Char) : hexValue? c = some 0 ↔ c = '0' := by
  revert c
  refine char_cases (p := fun c => hexValue? c = some 0 ↔ c = '0') (by decide) fun c large _ => ?_
  have other : c ≠ '0' := by
    rintro rfl
    exact absurd large (by decide)
  simp [hexValue?_of_le large, other]

/-- Digits denote zero if they are zeros. -/
theorem hexNat?_eq_zero_iff {cs : List Char} (hex : IsHex cs) :
    hexNat? cs = some 0 ↔ ∀ c ∈ cs, c = '0' := by
  induction cs with
  | nil => simp [hexNat?]
  | cons c cs ih =>
    obtain ⟨v, hv⟩ := Option.isSome_iff_exists.mp (hex c List.mem_cons_self)
    obtain ⟨n, -, hn⟩ := hexNat?_of_digits hex.of_cons
    have first : hexNat? [c] = some v := by simp [hexNat?, hv]
    have whole : hexNat? (c :: cs) = some (n + 16 ^ cs.length * v) := hexNat?_append first hn
    have head := hexValue?_eq_zero_iff c
    have tail := ih hex.of_cons
    rw [hv, Option.some.injEq] at head
    rw [hn, Option.some.injEq] at tail
    calc hexNat? (c :: cs) = some 0 ↔ v = 0 ∧ n = 0 := by
          rw [whole]
          simp [and_comm]
      _ ↔ c = '0' ∧ ∀ d ∈ cs, d = '0' := and_congr head tail
      _ ↔ ∀ d ∈ c :: cs, d = '0' := (List.forall_mem_cons (p := (· = '0'))).symm

/-! ## Blanks and marks -/

theorem dropWhile_isBlank_append {before rest : List Char} (h : ∀ c ∈ before, isBlank c = true) :
    (before ++ rest).dropWhile isBlank = rest.dropWhile isBlank := by
  induction before with
  | nil => rfl
  | cons b before ih =>
    rw [List.cons_append, List.dropWhile_cons_of_pos (h b List.mem_cons_self),
      ih fun c hc => h c (List.mem_cons_of_mem b hc)]

/-- Blanks around a text without blanks are trimmed, and nothing else. -/
theorem trimBlanks_between {before middle after : List Char}
    (blank : ∀ c ∈ before ++ after, isBlank c = true) (clear : ∀ c ∈ middle, isBlank c = false) :
    trimBlanks (before ++ middle ++ after) = middle := by
  have front : ∀ c ∈ before, isBlank c = true := fun c hc => blank c (List.mem_append_left _ hc)
  have back : ∀ c ∈ after, isBlank c = true := fun c hc => blank c (List.mem_append_right _ hc)
  rw [trimBlanks, List.append_assoc, dropWhile_isBlank_append front]
  cases middle with
  | nil =>
    rw [List.nil_append, (List.dropWhile_eq_nil_iff (p := isBlank)).mpr back]
    rfl
  | cons m middle =>
    have stop : ∀ c ∈ (m :: middle).reverse, isBlank c = false :=
      fun c hc => clear c (List.mem_reverse.mp hc)
    rw [List.cons_append, List.dropWhile_cons_of_neg (by simp [clear m List.mem_cons_self]),
      ← List.cons_append, List.reverse_append,
      dropWhile_isBlank_append fun c hc => back c (List.mem_reverse.mp hc), dropWhile_isBlank stop,
      List.reverse_reverse]

/-- What is trimmed off a text are blanks. -/
theorem exists_trimBlanks (cs : List Char) :
    ∃ before after, cs = before ++ trimBlanks cs ++ after ∧
      ∀ c ∈ before ++ after, isBlank c = true := by
  set rest := cs.dropWhile isBlank with hrest
  refine ⟨cs.takeWhile isBlank, (rest.reverse.takeWhile isBlank).reverse, ?_, ?_⟩
  · rw [trimBlanks, ← hrest, List.append_assoc, ← List.reverse_append,
      List.takeWhile_append_dropWhile, List.reverse_reverse, hrest, List.takeWhile_append_dropWhile]
  · intro c hc
    rcases List.mem_append.mp hc with hc | hc
    · exact List.mem_takeWhile_imp hc
    · exact List.mem_takeWhile_imp (List.mem_reverse.mp hc)

/-- What may stand in front of the digits. -/
def hexMarks : List (List Char) := [[], ['0', 'x'], ['0', 'X']]

theorem exists_hexMark (cs : List Char) : ∃ mark ∈ hexMarks, cs = mark ++ dropHexMark cs := by
  unfold dropHexMark afterHexMark?
  split
  case h_1 rest => exact ⟨['0', 'x'], by decide, rfl⟩
  case h_2 rest => exact ⟨['0', 'X'], by decide, rfl⟩
  case h_3 => exact ⟨[], by decide, rfl⟩

/-- The digits begin where the mark ends, as the second character of a mark is no digit. -/
theorem dropHexMark_append {mark digits : List Char} (marked : mark ∈ hexMarks) (hex : IsHex digits) :
    dropHexMark (mark ++ digits) = digits := by
  simp only [hexMarks, List.mem_cons, List.not_mem_nil, or_false] at marked
  rcases marked with rfl | rfl | rfl
  · rw [List.nil_append]
    unfold dropHexMark afterHexMark?
    split
    case h_1 rest => exact absurd (hex 'x' (by simp)) (by decide)
    case h_2 rest => exact absurd (hex 'X' (by simp)) (by decide)
    case h_3 => rfl
  · rfl
  · rfl

/-- Neither a mark nor a digit is blank. -/
theorem isBlank_of_marked {mark digits : List Char} (marked : mark ∈ hexMarks) (hex : IsHex digits) :
    ∀ c ∈ mark ++ digits, isBlank c = false := by
  have clear : hexMarks.all (·.all (!isBlank ·)) = true := by decide
  intro c hc
  rcases List.mem_append.mp hc with hc | hc
  · have front := List.all_eq_true.mp (List.all_eq_true.mp clear mark marked) c hc
    simpa using front
  · exact hex.isBlank c hc

end TransferLedger.Text

namespace TransferLedger

open TransferLedger.Text

/-! ## Scalars -/

/-- **A text that writes a number as a hex scalar:** between blanks, a mark or none, and at least one
hex digit. -/
def IsScalar (s : String) (n : Nat) : Prop :=
  ∃ before mark digits after : List Char,
    s.toList = before ++ (mark ++ digits) ++ after ∧
      (∀ c ∈ before ++ after, isBlank c = true) ∧
      mark ∈ hexMarks ∧ digits ≠ [] ∧ DigitsDenote digits n

/-- The digits of a scalar are what trimming and dropping the mark leave. -/
theorem isScalar_iff {s : String} {n : Nat} :
    IsScalar s n ↔ dropHexMark (trimBlanks s.toList) ≠ [] ∧
      hexNat? (dropHexMark (trimBlanks s.toList)) = some n := by
  constructor
  · rintro ⟨before, mark, digits, after, shape, blank, marked, nonempty, denote⟩
    rw [shape, trimBlanks_between blank (isBlank_of_marked marked denote.hex),
      dropHexMark_append marked denote.hex]
    exact ⟨nonempty, hexNat?_eq_some_iff.mpr denote⟩
  · rintro ⟨nonempty, denote⟩
    obtain ⟨before, after, shape, blank⟩ := exists_trimBlanks s.toList
    obtain ⟨mark, marked, split⟩ := exists_hexMark (trimBlanks s.toList)
    refine ⟨before, mark, _, after, ?_, blank, marked, nonempty, hexNat?_eq_some_iff.mp denote⟩
    rw [← split]
    exact shape

/-- **A mark or none and some digits** write what the digits denote. -/
theorem Word.ofScalar?_of_hex {s : String} {mark digits : List Char} (shape : s.toList = mark ++ digits)
    (marked : mark ∈ hexMarks) (nonempty : digits ≠ []) (hex : IsHex digits) :
    ofScalar? s = (hexNat? digits).bind ofNat? := by
  rw [ofScalar?, shape, trimBlanks_of_none (isBlank_of_marked marked hex),
    dropHexMark_append marked hex]
  cases digits with
  | nil => exact absurd rfl nonempty
  | cons d ds => rfl

/-- A text writes one number at most. -/
theorem IsScalar.unique {s : String} {m n : Nat} (hm : IsScalar s m) (hn : IsScalar s n) : m = n :=
  Option.some.inj ((isScalar_iff.mp hm).2.symm.trans (isScalar_iff.mp hn).2)

namespace Word

/-- **The reader takes a text for a word if the text writes the number of the word, and only then.** -/
theorem ofScalar?_eq_some_iff {s : String} {w : Word} : ofScalar? s = some w ↔ IsScalar s w.toNat := by
  rw [isScalar_iff, ofScalar?]
  split
  case h_1 none => simp [none]
  case h_2 digits some =>
    rw [Option.bind_eq_some_iff]
    constructor
    · rintro ⟨n, read, fits⟩
      obtain rfl := toNat_of_ofNat? fits
      exact ⟨fun empty => some empty, read⟩
    · rintro ⟨-, read⟩
      exact ⟨w.toNat, read, ofNat?_toNat w⟩

theorem ofScalar?_eq_none_iff {s : String} :
    ofScalar? s = none ↔ ∀ n < 2 ^ 256, ¬IsScalar s n := by
  constructor
  · intro none n small written
    have number : (BitVec.ofNatLT n small).toNat = n := rfl
    rw [← number, ← ofScalar?_eq_some_iff, none] at written
    cases written
  · intro unwritten
    rw [Option.eq_none_iff_forall_ne_some]
    intro w read
    exact unwritten w.toNat w.isLt (ofScalar?_eq_some_iff.mp read)

end Word

end TransferLedger
