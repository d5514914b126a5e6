/-
# TransferLedger.Text.Runs -- properties of characters by runs of code points

A property that long runs of code points share is kept as the places at which it changes, in
increasing order. Where a code point falls among them is found by halving. Main statement: of keys
that grow, the first ones up to the number found are at most the bound, and all others are above it.
-/

namespace TransferLedger.Text

/-- The number of keys at most `n`, which lies between `low` and `high`, for keys that grow. -/
def countUpTo (key : Nat → Nat) (n low high : Nat) : Nat :=
  if low < high then
    let middle := (low + high) / 2
    if key middle ≤ n then countUpTo key n (middle + 1) high else countUpTo key n low middle
  else low
termination_by high - low

/-- Whether a character lies within one of some runs, which are given by their starts and ends in
turn. An end lies behind its run. -/
def inRuns (runs : Array Nat) (c : Char) : Bool :=
  countUpTo (runs.getD · 0) c.toNat 0 runs.size % 2 == 1

/-- The last of some runs, each with its start and a value, that starts at or before a character. -/
def runOf? (runs : Array (Nat × α)) (c : Char) : Option (Nat × α) :=
  match countUpTo (fun i => (runs[i]?.map (·.1)).getD 0) c.toNat 0 runs.size with
  | 0 => none
  | i + 1 => runs[i]?

/-! ## What is found -/

theorem le_countUpTo {key : Nat → Nat} {n low high : Nat} : low ≤ countUpTo key n low high := by
  fun_induction countUpTo key n low high with
  | case1 _ _ _ middle _ ih => omega
  | case2 _ _ _ middle _ ih => exact ih
  | case3 => exact Nat.le_refl _

theorem countUpTo_le {key : Nat → Nat} {n low high : Nat} (h : low ≤ high) :
    countUpTo key n low high ≤ high := by
  fun_induction countUpTo key n low high with
  | case1 _ _ _ middle _ ih => exact ih (by omega)
  | case2 _ _ _ middle _ ih => exact Nat.le_trans (ih (by omega)) (by omega)
  | case3 => exact h

/-- Halving finds where the keys pass the bound. -/
theorem lt_countUpTo_iff {key : Nat → Nat} {n low high : Nat}
    (grows : ∀ i j, i ≤ j → key i ≤ key j) {i : Nat} (above : low ≤ i) (below : i < high) :
    i < countUpTo key n low high ↔ key i ≤ n := by
  fun_induction countUpTo key n low high with
  | case1 low high hlt middle hle ih =>
    by_cases h : i ≤ middle
    · have found : middle + 1 ≤ countUpTo key n (middle + 1) high := le_countUpTo
      have small := Nat.le_trans (grows i middle h) hle
      omega
    · exact ih (by omega) below
  | case2 low high hlt middle hgt ih =>
    by_cases h : i < middle
    · exact ih above h
    · have found : countUpTo key n low middle ≤ middle := countUpTo_le (by omega)
      have large := grows middle i (by omega)
      omega
  | case3 low high hge => omega

end TransferLedger.Text
