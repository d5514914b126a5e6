/-
# TransferLedger.Text.Chart -- texts for single characters

A chart gives texts to characters. It is written in rows: a row starts at a code point and holds the
texts of this one and of those after it, with a blank between two texts. An empty text stands for
none.
-/

import TransferLedger.Text.Pieces
import TransferLedger.Text.Runs

namespace TransferLedger.Text

/-- **A chart:** the start of each row and its texts, by increasing starts. -/
structure Chart where
  rows : Array (Nat × Array (List Char))

namespace Chart

/-- The chart of some rows. -/
def ofRows (rows : List (Nat × String)) : Chart :=
  ⟨(rows.map fun (first, texts) => (first, (splitAt ' ' texts.toList).toArray)).toArray⟩

/-- The text of a character. -/
def get? (chart : Chart) (c : Char) : Option (List Char) := do
  let (first, texts) ← runOf? chart.rows c
  let text ← texts[c.toNat - first]?
  if text.isEmpty then none else some text

theorem ne_nil_of_get? {chart : Chart} {c : Char} {text : List Char}
    (h : chart.get? c = some text) : text ≠ [] := by
  simp only [get?, Option.bind_eq_bind, Option.bind_eq_some_iff] at h
  obtain ⟨_, _, _, _, h⟩ := h
  split at h
  · cases h
  · next full =>
    cases h
    simpa using full

end Chart

end TransferLedger.Text
