/-
# TransferLedger.Number.Binary64 -- fractions in documents

Numbers with a fraction are kept as the 64 bits of their binary form, so equal values are equal
records. Writing gives the fewest decimal digits that read back, computed in exact integer
arithmetic: for 1, 2, ... 17 digits the two neighbours of the value on that decimal grid are tested
against the interval of reals that round to it. Reading takes the leading digits as one integer and
scales it once by a power of ten, each step rounded to nearest.
-/

import TransferLedger.Number.Digits

namespace TransferLedger.Number

/-- A finite binary fraction, by its bits. -/
structure Binary64 where
  bits : UInt64
deriving DecidableEq, Repr

namespace Binary64

/-! ## The parts of a value -/

/-- Whether the sign bit is set. -/
def isNegative (x : Binary64) : Bool := x.bits.toNat / 2 ^ 63 == 1

/-- The biased exponent. -/
def biased (x : Binary64) : Nat := x.bits.toNat / 2 ^ 52 % 2 ^ 11

/-- The stored fraction. -/
def fraction (x : Binary64) : Nat := x.bits.toNat % 2 ^ 52

/-- The magnitude as `m * 2 ^ q`. -/
def parts (x : Binary64) : Nat × Int :=
  if x.biased = 0 then (x.fraction, -1074) else (x.fraction + 2 ^ 52, (x.biased : Int) - 1075)

/-! ## The fewest digits that read back -/

/-- **The reals that round to a value,** in quarters of its last place: the value itself and both
ends. Just above a power of two the lower neighbour is half as far away. -/
structure Span where
  low : Nat
  value : Nat
  high : Nat
  /-- Whether the ends themselves round to the value. -/
  closed : Bool
  /-- The binary exponent of a quarter of the last place. -/
  exponent : Int

/-- The span of a value with a non-zero magnitude. -/
def span (x : Binary64) : Span :=
  let (m, q) := x.parts
  let below := if x.fraction = 0 ∧ 1 < x.biased then 1 else 2
  ⟨4 * m - below, 4 * m, 4 * m + 2, m % 2 = 0, q - 2⟩

/-- A grid of decimal fractions `d * 10 ^ k`, against multiples of `2 ^ e`: `d * 10 ^ k = y * 2 ^ e`
exactly when `d * scale = y * unit`. -/
structure Grid where
  scale : Nat
  unit : Nat

/-- The grid of multiples of `10 ^ k`, against multiples of `2 ^ e`. -/
def grid (k e : Int) : Grid where
  scale := 10 ^ k.toNat * 2 ^ (-e).toNat
  unit := 10 ^ (-k).toNat * 2 ^ e.toNat

/-- Whether the grid point `d` rounds to the value. -/
def Span.holds (s : Span) (g : Grid) (d : Nat) : Bool :=
  if s.closed then s.low * g.unit ≤ d * g.scale && d * g.scale ≤ s.high * g.unit
  else s.low * g.unit < d * g.scale && d * g.scale < s.high * g.unit

/-- The grid point that rounds to the value, the nearer of two and the even one of a tie. -/
def Span.pick? (s : Span) (g : Grid) : Option Nat :=
  let floor := s.value * g.unit / g.scale
  let below := s.value * g.unit - floor * g.scale
  let above := (floor + 1) * g.scale - s.value * g.unit
  match s.holds g floor, s.holds g (floor + 1) with
  | true, true =>
    if below < above then some floor
    else if above < below then some (floor + 1)
    else some (floor + floor % 2)
  | true, false => some floor
  | false, true => some (floor + 1)
  | false, false => none

/-- The first of the grids `10 ^ k`, `10 ^ (k - 1)`, ... with a point that rounds to the value. -/
def Span.shortest? (s : Span) : (tries : Nat) → (k : Int) → Option (Nat × Int)
  | 0, _ => none
  | tries + 1, k =>
    match s.pick? (grid k s.exponent) with
    | some d => if d = 0 then s.shortest? tries (k - 1) else some (d, k)
    | none => s.shortest? tries (k - 1)

/-- The exponent of the leading decimal digit of `y * 2 ^ e`, from above: the first `k` downwards
with `10 ^ k` not above it. -/
def leading (y : Nat) (e : Int) : (tries : Nat) → (k : Int) → Int
  | 0, k => k
  | tries + 1, k =>
    let g := grid k e
    if g.scale ≤ y * g.unit then k else leading y e tries (k - 1)

/-- Digits without the zeros at their end, and the exponent that these add to. -/
def dropZeros (digits : List Char) (k : Int) : List Char × Int :=
  let kept := (digits.reverse.dropWhile (· == '0')).reverse
  (kept, k + (digits.length - kept.length : Nat))

/-- The fewest digits of a non-zero value and the power of ten of the last one. -/
def shortestDigits (x : Binary64) : List Char × Int :=
  let s := x.span
  let top := leading s.value s.exponent 640 309
  match s.shortest? 17 top with
  | some (d, k) => dropZeros (decimal d) k
  | none => (['0'], 0)

/-! ## Decimal text -/

/-- **The layout of a number:** the exponents of the leading digit that are written positionally. -/
structure Layout where
  leastPositional : Int
  greatestPositional : Int

/-- Documents write exponents from -5 to 15 positionally. -/
def documentLayout : Layout := ⟨-5, 15⟩

/-- The digits with a point, an integral value with one zero after it. -/
def positional (digits : List Char) (k : Int) : List Char :=
  let lead := k + digits.length - 1
  if 0 ≤ k then digits ++ List.replicate k.toNat '0' ++ ['.', '0']
  else if 0 ≤ lead then
    digits.take (lead.toNat + 1) ++ '.' :: digits.drop (lead.toNat + 1)
  else '0' :: '.' :: List.replicate (-lead - 1).toNat '0' ++ digits

/-- One digit, the others after a point, and an exponent that always has a sign. -/
def scientific (digits : List Char) (k : Int) : List Char :=
  let lead := k + digits.length - 1
  let mantissa :=
    match digits with
    | [] => []
    | [d] => [d]
    | d :: rest => d :: '.' :: rest
  mantissa ++ 'e' :: (if lead < 0 then '-' else '+') :: decimal lead.natAbs

/-- The text of a value in a layout. -/
def renderIn (layout : Layout) (x : Binary64) : String :=
  let magnitude :=
    if x.parts.1 = 0 then ['0', '.', '0']
    else
      let (digits, k) := x.shortestDigits
      let lead := k + digits.length - 1
      if layout.leastPositional ≤ lead ∧ lead ≤ layout.greatestPositional then positional digits k
      else scientific digits k
  String.ofList (if x.isNegative then '-' :: magnitude else magnitude)

/-- The text of a value in a document. -/
def render (x : Binary64) : String := x.renderIn documentLayout

/-! ## Reading -/

/-- The nearest value to `10 ^ k`. -/
def tenTo (k : Nat) : Float := Float.ofScientific 1 false k

/-- Divisions by `10 ^ 308` until the rest of the exponent is within reach or nothing is left. -/
def scaleDown : (steps : Nat) → Float → (k : Nat) → Float
  | 0, f, _ => f
  | steps + 1, f, k =>
    if k ≤ 308 then f / tenTo k
    else if f == 0 then f
    else scaleDown steps (f / tenTo 308) (k - 308)

/-- **The value of `significand * 10 ^ exponent`** as one rounded product or quotient, or nothing if
it is too large. Three divisions bring any significand to zero. -/
def ofDecimal? (negative : Bool) (significand : UInt64) (exponent : Int) : Option Binary64 :=
  let f := significand.toFloat
  let magnitude :=
    match exponent with
    | .ofNat k =>
      if 308 < k then if f == 0 then some f else none
      else
        let scaled := f * tenTo k
        if scaled.isInf then none else some scaled
    | .negSucc k => some (scaleDown 4 f (k + 1))
  magnitude.map fun f => ⟨(if negative then -f else f).toBits⟩

/-- The value as the machine computes with it. -/
def toFloat (x : Binary64) : Float := Float.ofBits x.bits

end Binary64

end TransferLedger.Number
