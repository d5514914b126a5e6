/-
# TransferLedger.Text.Utf8 -- reading bytes as characters

Bytes arrive from request bodies, contract results and data words cut at fixed lengths. They are
read by one machine over the well-formed byte sequences. An ill-formed run, which is the longest
beginning of a sequence that cannot be continued, is reported once: strict reading refuses it,
lenient reading puts one replacement character in its place.
-/

namespace TransferLedger.Text.Utf8

/-- The bytes of a text. -/
def encode (s : String) : List UInt8 := s.toList.flatMap String.utf8EncodeChar

/-- **Where the reader stands inside a sequence:** how many bytes are still owed, the range that the
next one must lie in, and the value read so far. -/
structure Pending where
  owed : Nat
  low : Nat
  high : Nat
  value : Nat
deriving DecidableEq, Repr

/-- What a first byte starts: a whole character, a longer sequence, or nothing. -/
inductive Start where
  | whole (c : Char)
  | longer (p : Pending)
  | bad
deriving DecidableEq, Repr

/-- The ranges rule out overlong forms, surrogates and values past the last character. -/
def start (b : UInt8) : Start :=
  let n := b.toNat
  if n < 0x80 then .whole (Char.ofNat n)
  else if 0xC2 ≤ n ∧ n ≤ 0xDF then .longer ⟨1, 0x80, 0xBF, n - 0xC0⟩
  else if n = 0xE0 then .longer ⟨2, 0xA0, 0xBF, 0⟩
  else if n = 0xED then .longer ⟨2, 0x80, 0x9F, 0xD⟩
  else if 0xE1 ≤ n ∧ n ≤ 0xEF then .longer ⟨2, 0x80, 0xBF, n - 0xE0⟩
  else if n = 0xF0 then .longer ⟨3, 0x90, 0xBF, 0⟩
  else if 0xF1 ≤ n ∧ n ≤ 0xF3 then .longer ⟨3, 0x80, 0xBF, n - 0xF0⟩
  else if n = 0xF4 then .longer ⟨3, 0x80, 0x8F, 4⟩
  else .bad

/-- The characters of a byte sequence in order, with `none` for each ill-formed run. -/
def scan : Option Pending → List UInt8 → List (Option Char)
  | none, [] => []
  | some _, [] => [none]
  | none, b :: rest =>
    match start b with
    | .whole c => some c :: scan none rest
    | .longer p => scan (some p) rest
    | .bad => none :: scan none rest
  | some p, b :: rest =>
    if p.low ≤ b.toNat ∧ b.toNat ≤ p.high then
      let value := p.value * 64 + (b.toNat - 0x80)
      if p.owed = 1 then some (Char.ofNat value) :: scan none rest
      else scan (some ⟨p.owed - 1, 0x80, 0xBF, value⟩) rest
    else
      match start b with
      | .whole c => none :: some c :: scan none rest
      | .longer q => none :: scan (some q) rest
      | .bad => none :: none :: scan none rest

/-- The text of a well-formed byte sequence. -/
def decode? (bytes : List UInt8) : Option String :=
  ((scan none bytes).mapM id).map String.ofList

/-- The text of any byte sequence, with U+FFFD for each ill-formed run. -/
def decodeLossy (bytes : List UInt8) : String :=
  String.ofList ((scan none bytes).map (·.getD (Char.ofNat 0xFFFD)))

end TransferLedger.Text.Utf8
