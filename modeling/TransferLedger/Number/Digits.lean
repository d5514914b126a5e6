/-
# TransferLedger.Number.Digits -- natural numbers and their digits

Amounts are written in decimal. Writing is `Nat.toDigits 10`; reading accepts digits only and takes
the empty text for zero. `littleDigits` gives the digits of a number in any base, which is how a
word is cut into limbs.
-/

-- Powers of whole numbers are core's own, whatever algebra a module has in scope besides: a bound
-- such as `2 ^ 64` is one term in the definitions and in all that is proved about them.
attribute [instance (20000)] instPowNat
attribute [default_instance 20000] instPowNat

namespace TransferLedger.Number

/-! ## Decimal text -/

/-- The value of a decimal digit. -/
def decimalValue? (c : Char) : Option Nat :=
  if '0' ≤ c ∧ c ≤ '9' then some (c.toNat - '0'.toNat) else none

/-- The number that a run of decimal digits denotes, or nothing if another character is among them.
The empty run denotes zero. -/
def decimalNat? (cs : List Char) : Option Nat :=
  cs.foldlM (fun n c => (decimalValue? c).map (10 * n + ·)) 0

/-- The decimal digits of a number, most significant first; zero has one digit. -/
def decimal (n : Nat) : List Char := Nat.toDigits 10 n

/-- How many decimal digits a number has; zero has one. -/
def decimalWidth (n : Nat) : Nat := (decimal n).length

/-- A number in decimal. -/
def decimalText (n : Nat) : String := String.ofList (decimal n)

/-- An integer in decimal, with a minus sign below zero. -/
def intText : Int → String
  | .ofNat n => decimalText n
  | .negSucc n => "-" ++ decimalText (n + 1)

theorem decimalWidth_pos (n : Nat) : 0 < decimalWidth n := Nat.length_toDigits_pos

/-! ## Digits in any base -/

/-- At most `fuel` digits of `n` in base `b`, least significant first. -/
def littleDigitsUpTo (b : Nat) : (fuel n : Nat) → List Nat
  | 0, _ => []
  | fuel + 1, n => if n = 0 then [] else n % b :: littleDigitsUpTo b fuel (n / b)

/-- The digits of `n` in base `b`, least significant first; zero has none. No base above one needs
more digits than base two. -/
def littleDigits (b n : Nat) : List Nat := littleDigitsUpTo b (n.log2 + 1) n

end TransferLedger.Number
