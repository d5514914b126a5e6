/-
# TransferLedger.Text.Normal -- one sequence of characters for one text

A letter with marks can be written as a composite or by its parts, and marks of different classes in
any order. The normal form takes composites apart, sorts the marks on each letter by their classes,
and puts together again what has a composite. Korean syllables are composites by arithmetic. Main
statement: sorting the marks only moves characters.
-/

import TransferLedger.Text.Normal.Class
import TransferLedger.Text.Normal.Parts

namespace TransferLedger.Text

/-! ## Syllables -/

namespace Syllable

/-- The first syllable. -/
def first : Nat := 0xAC00

/-- The first of the nineteen leading consonants. -/
def firstLead : Nat := 0x1100

/-- The first of the vowels. -/
def firstVowel : Nat := 0x1161

/-- The place before the first trailing consonant, which stands for none. -/
def noTail : Nat := 0x11A7

/-- The number of leading consonants. -/
def leads : Nat := 19

/-- The number of vowels. -/
def vowels : Nat := 21

/-- The number of trailing consonants, none being one of them. -/
def tails : Nat := 28

/-- The parts of a syllable. -/
def parts? (c : Char) : Option (List Char) :=
  let i := c.toNat - first
  if c.toNat < first || leads * vowels * tails ≤ i then none
  else
    let openPart := [Char.ofNat (firstLead + i / (vowels * tails)),
      Char.ofNat (firstVowel + i / tails % vowels)]
    some (if i % tails = 0 then openPart else openPart ++ [Char.ofNat (noTail + i % tails)])

/-- The syllable of a consonant and a vowel, or of an open syllable and a consonant. -/
def together? (a b : Char) : Option Char :=
  let l := a.toNat - firstLead
  let v := b.toNat - firstVowel
  let s := a.toNat - first
  let t := b.toNat - noTail
  if firstLead ≤ a.toNat && l < leads && firstVowel ≤ b.toNat && v < vowels then
    some (Char.ofNat (first + (l * vowels + v) * tails))
  else if first ≤ a.toNat && s < leads * vowels * tails && s % tails = 0 && noTail < b.toNat &&
      t < tails then
    some (Char.ofNat (a.toNat + t))
  else none

end Syllable

/-! ## Taking apart -/

/-- The two parts of a composite in a table. -/
def pairOf? (table : Array (Nat × Nat × Nat)) (c : Char) : Option (List Char) := do
  let (composite, a, b) ← runOf? table c
  if composite = c.toNat then some [Char.ofNat a, Char.ofNat b] else none

/-- The parts of a character that stands for others. -/
def parts? (c : Char) : Option (List Char) :=
  (Syllable.parts? c).or <| (pairOf? composites c).or <| (pairOf? partedComposites c).or <|
    repeats.get? c

/-- The characters that a character stands for, where parts have so many levels of parts. -/
def apart : (levels : Nat) → Char → List Char
  | 0, c => [c]
  | levels + 1, c =>
    match parts? c with
    | some cs => cs.flatMap (apart levels)
    | none => [c]

/-- The most levels that any character has. -/
def mostLevels : Nat := 3

/-! ## Sorting marks -/

/-- One more character at the end of a text whose marks are sorted, the text read from its end. -/
def place (c : Char) : List Char → List Char
  | [] => [c]
  | d :: before =>
    if combiningClass c != 0 && combiningClass c < combiningClass d then d :: place c before
    else c :: d :: before

/-- The text with the marks on each letter sorted. Marks of one class keep their order. -/
def sortMarks (cs : List Char) : List Char := (cs.foldl (fun before c => place c before) []).reverse

theorem place_perm (c : Char) (before : List Char) : (place c before).Perm (c :: before) := by
  induction before with
  | nil => exact .refl _
  | cons d before ih =>
    rw [place]
    split
    · exact (ih.cons d).trans (.swap ..)
    · exact .refl _

theorem sortMarks_perm (cs : List Char) : (sortMarks cs).Perm cs := by
  have step : ∀ before : List Char,
      (cs.foldl (fun before c => place c before) before).Perm (cs.reverse ++ before) := by
    induction cs with
    | nil => exact fun _ => .refl _
    | cons c cs ih =>
      intro before
      have placed := (place_perm c before).append_left cs.reverse
      simpa using (ih (place c before)).trans placed
  exact (List.reverse_perm _).trans ((step []).trans (by simp))

/-! ## Putting together -/

/-- The composite of a character and the one after it. -/
def together? (a b : Char) : Option Char :=
  (Syllable.together? a b).or
    ((composites.find? fun (_, first, second) => first == a.toNat && second == b.toNat).map
      fun (composite, _) => Char.ofNat composite)

/-- **A text that is put together:** what is finished, read from its end, then the letter that may
still take marks, and the marks behind it that it has not taken, read from their end. -/
structure Assembly where
  finished : List Char
  letter : Option Char
  marks : List Char
deriving DecidableEq, Repr

namespace Assembly

/-- Whether nothing stands between the letter and a further character that would keep them apart. -/
def reaches (a : Assembly) (c : Char) : Bool :=
  match a.marks with
  | [] => true
  | m :: _ => combiningClass m < combiningClass c

/-- One more character. -/
def add (a : Assembly) (c : Char) : Assembly :=
  match a.letter with
  | none =>
    if combiningClass c = 0 then { a with letter := some c }
    else { a with finished := c :: a.finished }
  | some l =>
    match if a.reaches c then together? l c else none with
    | some composite => { a with letter := some composite }
    | none =>
      if combiningClass c = 0 then ⟨a.marks ++ l :: a.finished, some c, []⟩
      else { a with marks := c :: a.marks }

/-- The whole text. -/
def text (a : Assembly) : List Char := (a.marks ++ a.letter.toList ++ a.finished).reverse

end Assembly

/-- **The normal form of a text.** -/
def normalForm (cs : List Char) : List Char :=
  ((sortMarks (cs.flatMap (apart mostLevels))).foldl Assembly.add ⟨[], none, []⟩).text

end TransferLedger.Text
