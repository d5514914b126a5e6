/-
# TransferLedger.Text.Pieces -- the pieces of a text

A separator divides a text into pieces, one more than it occurs. Main statement: the pieces with the
separator between them are the text.
-/

namespace TransferLedger.Text

/-- The pieces of a text between the occurrences of a separator. -/
def splitAt (separator : Char) : List Char → List (List Char)
  | [] => [[]]
  | c :: cs =>
    match splitAt separator cs with
    | [] => [[c]]
    | piece :: pieces =>
      if c = separator then [] :: piece :: pieces else (c :: piece) :: pieces

/-- The text of some pieces with a separator between them. -/
def join (separator : Char) (pieces : List (List Char)) : List Char :=
  [separator].intercalate pieces

theorem splitAt_ne_nil (separator : Char) (cs : List Char) : splitAt separator cs ≠ [] := by
  cases cs with
  | nil => simp [splitAt]
  | cons c cs =>
    rw [splitAt]
    split
    · simp
    · split <;> simp

@[simp] theorem join_splitAt (separator : Char) (cs : List Char) :
    join separator (splitAt separator cs) = cs := by
  induction cs with
  | nil => rfl
  | cons c cs ih =>
    rw [splitAt]
    split
    · next h => exact absurd h (splitAt_ne_nil separator cs)
    · next piece pieces h =>
      rw [h] at ih
      split
      · next hc => simp_all [join, List.intercalate, List.intersperse]
      · next hc =>
        cases pieces <;> simp_all [join, List.intercalate, List.intersperse]

end TransferLedger.Text
