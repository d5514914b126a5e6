/-
# TransferLedger.Text.Punycode -- names outside ASCII in ASCII

A name is written with its ASCII characters first. The others follow in the order of their code
points, each as the number of steps from the one before it: a step goes to the next place in the
name, and past the last place to the next code point. A number is written in digits to base 36,
least significant first, where the thresholds that tell the last digit adapt to the numbers written
so far. Reading goes through the digits once and puts in a character after each number.
-/

import TransferLedger.Text.Ascii

namespace TransferLedger.Text.Punycode

/-- The digit of a value below 36: letters, then figures. -/
def digit (n : Nat) : Char := Char.ofNat (if n < 26 then 97 + n else 22 + n)

/-- What a digit has to stay below to be the last one, at a place counted in steps of 36. -/
def threshold (bias place : Nat) : Nat := min 26 (max 1 (place - bias))

/-- The digits of a number from a place on. Each of them but the last leaves less to write. -/
def digits (bias : Nat) : (fuel place n : Nat) → List Char
  | 0, _, _ => []
  | fuel + 1, place, n =>
    let t := threshold bias place
    if n < t then [digit n]
    else digit (t + (n - t) % (36 - t)) :: digits bias fuel (place + 36) ((n - t) / (36 - t))

/-- The bias that suits a scaled number. -/
def biasOf : (fuel : Nat) → Nat → Nat
  | 0, _ => 0
  | fuel + 1, n => if 455 < n then 36 + biasOf fuel (n / 35) else 36 * n / (n + 38)

/-- The bias after a number. The first number counts for less than a later one. -/
def adapt (n count : Nat) (first : Bool) : Nat :=
  let scaled := if first then n / 700 else n / 2
  biasOf scaled (scaled + scaled / count)

/-- What has been written: the digits, the steps since the last character, how many characters have
their place, and the bias. -/
structure Written where
  text : List Char
  steps : Nat
  placed : Nat
  bias : Nat
deriving DecidableEq, Repr

/-- One place of the name: a character before the sought one takes a step, the sought one is
written. -/
def visit (basic sought : Nat) (w : Written) (c : Char) : Written :=
  if c.toNat < sought then { w with steps := w.steps + 1 }
  else if c.toNat = sought then
    ⟨w.text ++ digits w.bias (w.steps + 1) 36 w.steps, 0, w.placed + 1,
      adapt w.steps (w.placed + 1) (w.placed == basic)⟩
  else w

/-- The code points outside ASCII in increasing order, each written at all its places. -/
def visitAll (name : List Char) (basic : Nat) : (current : Nat) → Written → List Nat → Written
  | _, w, [] => w
  | current, w, sought :: rest =>
    let w := { w with steps := w.steps + (sought - current) * (w.placed + 1) }
    let w := name.foldl (visit basic sought) w
    visitAll name basic (sought + 1) { w with steps := w.steps + 1 } rest

/-- Whether a character is within ASCII. -/
def isBasic (c : Char) : Bool := c.toNat < 128

/-- **A name in ASCII.** -/
def encode (name : List Char) : List Char :=
  let basic := name.filter isBasic
  let others := ((name.filter (!isBasic ·)).map Char.toNat).mergeSort.eraseDups
  let mark := if basic.isEmpty then [] else ['-']
  basic ++ mark ++ (visitAll name basic.length 128 ⟨[], 0, basic.length, 72⟩ others).text

/-! ## Reading -/

/-- The value of a digit of either case. -/
def digitValue? (c : Char) : Option Nat :=
  if 'a' ≤ c ∧ c ≤ 'z' then some (c.toNat - 97)
  else if 'A' ≤ c ∧ c ≤ 'Z' then some (c.toNat - 65)
  else if '0' ≤ c ∧ c ≤ '9' then some (c.toNat - 22)
  else none

/-- **What has been read:** the name, the code point and the place of its latest character, the
steps of the number being read, the weight and the place of its next digit, and the bias. -/
structure Progress where
  name : List Char
  current : Nat
  start : Nat
  steps : Nat
  weight : Nat
  place : Nat
  bias : Nat
deriving DecidableEq, Repr

/-- One digit. The last digit of a number puts a character into the name. -/
def Progress.read? (p : Progress) (c : Char) : Option Progress := do
  let d ← digitValue? c
  let steps := p.steps + d * p.weight
  let t := threshold p.bias p.place
  if d < t then
    let count := p.name.length + 1
    let total := p.start + steps
    let current := p.current + total / count
    if h : current.isValidChar then
      let place := total % count
      some {
        name := p.name.take place ++ Char.ofNatAux current h :: p.name.drop place
        current := current
        start := place + 1
        steps := 0
        weight := 1
        place := 36
        bias := adapt steps count (p.start == 0) }
    else none
  else some { p with steps := steps, weight := p.weight * (36 - t), place := p.place + 36 }

/-- **The name that a text in ASCII writes.** Its ASCII characters stand before the last hyphen. -/
def decode? (text : List Char) : Option (List Char) := do
  let digits := (text.reverse.takeWhile (· != '-')).reverse
  let basic := text.take (text.length - digits.length - 1)
  if !basic.all isBasic || (basic.isEmpty && text.contains '-') then none
  let p ← digits.foldlM Progress.read? ⟨basic, 128, 0, 0, 1, 36, 72⟩
  if p.weight = 1 then some p.name else none

theorem digitValue?_digit {n : Nat} (h : n < 36) : digitValue? (digit n) = some n := by
  have all : ∀ m ∈ List.range 36, digitValue? (digit m) = some m := by decide
  exact all n (List.mem_range.2 h)

end TransferLedger.Text.Punycode
