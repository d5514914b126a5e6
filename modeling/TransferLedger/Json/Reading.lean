/-
# TransferLedger.Json.Reading -- what a text holds, up to its first fault

Request bodies and node answers are untrusted text. `Reading` is the tree that a text spells, with a
`fault` leaf where the text stops being well formed; nothing follows a fault. A decoder walks the
tree in the order of the text, so the first fault it meets is the first one of the text, whether the
text is malformed there or merely has the wrong shape. A string whose characters are broken and a
number out of range are kept as such, since a decoder may pass over them without looking inside.
-/

import TransferLedger.Json.Basic
import TransferLedger.Text.Ascii
import TransferLedger.Text.Utf8

namespace TransferLedger.Json

open TransferLedger.Number TransferLedger.Text

/-- **What a text holds.** -/
inductive Reading where
  | null
  | bool (b : Bool)
  /-- A number; `none` if it is too large to be held. -/
  | num (n : Option Json.Number)
  /-- A string; `none` if its characters are broken. -/
  | str (s : Option String)
  | arr (items : List Reading)
  | obj (fields : List (Option String × Reading))
  /-- The text is malformed here. -/
  | fault
deriving Repr

namespace Reading

/-! ## Characters -/

/-- The byte of an ASCII character. -/
def byte (c : Char) : UInt8 := UInt8.ofNat c.toNat

/-- The four blanks of the format. -/
def isBlankByte (b : UInt8) : Bool :=
  b == byte ' ' || b == byte '\n' || b == byte '\t' || b == byte '\r'

/-- The bytes after leading blanks. -/
def skipBlanks (bytes : List UInt8) : List UInt8 := bytes.dropWhile isBlankByte

/-- Whether the byte is a decimal digit. -/
def isDigitByte (b : UInt8) : Bool := byte '0' ≤ b && b ≤ byte '9'

/-- The value of a digit byte. -/
def digitOf (b : UInt8) : Nat := b.toNat - 48

/-- The number of four hex digits and the bytes after them. -/
def hexFour? : List UInt8 → Option (Nat × List UInt8)
  | a :: b :: c :: d :: rest =>
    (hexNat? ([a, b, c, d].map fun x => Char.ofNat x.toNat)).map (·, rest)
  | _ => none

/-! ## Numbers -/

/-- The greatest integer that is kept exactly. -/
def greatest : Nat := 2 ^ 64 - 1

/-- Digits appended to a number as long as it stays within `greatest`, with how many were not. -/
def appendWhole (n : Nat) : List UInt8 → Nat × Nat
  | [] => (n, 0)
  | d :: rest =>
    if n * 10 + digitOf d ≤ greatest then appendWhole (n * 10 + digitOf d) rest
    else (n, rest.length + 1)

/-- Digits after the point appended to a number as long as it stays within `greatest`, with how many
were. -/
def appendFraction (n : Nat) : List UInt8 → Nat × Nat
  | [] => (n, 0)
  | d :: rest =>
    if n * 10 + digitOf d ≤ greatest then
      let (m, k) := appendFraction (n * 10 + digitOf d) rest
      (m, k + 1)
    else (n, 0)

/-- **The value of a number token.** An integer that fits is kept exactly, except for a negative
zero; anything else is a fraction. -/
def numberOf (negative : Bool) (whole fraction : List UInt8) (exponent : Option Int) :
    Option Json.Number :=
  let (n, dropped) := appendWhole 0 whole
  let (m, placed) := appendFraction n fraction
  match fraction, exponent, dropped with
  | [], none, 0 =>
    if negative = false then some (.integer n)
    else if 0 < n ∧ n ≤ 2 ^ 63 then some (.integer (-n))
    else (Binary64.ofDecimal? true n.toUInt64 0).map .fraction
  | _, _, _ =>
    (Binary64.ofDecimal? negative m.toUInt64 (dropped - placed + exponent.getD 0)).map .fraction

/-- An exponent after its mark: an optional sign and at least one digit. -/
def exponent? (bytes : List UInt8) : Option (Int × List UInt8) :=
  let (negative, digits) :=
    match bytes with
    | b :: rest => if b = byte '+' then (false, rest) else if b = byte '-' then (true, rest)
      else (false, bytes)
    | [] => (false, [])
  match digits.takeWhile isDigitByte with
  | [] => none
  | ds =>
    let n : Int := ds.foldl (fun n d => n * 10 + digitOf d) (0 : Nat)
    some (if negative then -n else n, digits.dropWhile isDigitByte)

/-- A number token after its sign, and the bytes after it. A leading zero stands alone, and a point
is followed by a digit. -/
def number? (negative : Bool) (bytes : List UInt8) : Option (Reading × List UInt8) := do
  let whole := bytes.takeWhile isDigitByte
  let rest := bytes.dropWhile isDigitByte
  guard (whole ≠ [] ∧ (whole.head? = some (byte '0') → whole.length = 1))
  let (fraction, rest) ←
    match rest with
    | b :: more =>
      if b = byte '.' then
        match more.takeWhile isDigitByte with
        | [] => none
        | ds => some (ds, more.dropWhile isDigitByte)
      else some ([], rest)
    | [] => some ([], [])
  let (exponent, rest) ←
    match rest with
    | b :: more =>
      if b = byte 'e' ∨ b = byte 'E' then (exponent? more).map fun (e, r) => (some e, r)
      else some (none, rest)
    | [] => some (none, [])
  return (.num (numberOf negative whole fraction exponent), rest)

/-! ## Strings -/

/-- The bytes of a character, after the ones in front. -/
def pushChar (front : List UInt8) (n : Nat) : List UInt8 :=
  (String.utf8EncodeChar (Char.ofNat n)).reverse ++ front

/-- The byte that a short escape stands for. -/
def shortEscape? (b : UInt8) : Option UInt8 :=
  if b = byte '"' ∨ b = byte '\\' ∨ b = byte '/' then some b
  else if b = byte 'b' then some 8
  else if b = byte 'f' then some 12
  else if b = byte 'n' then some 10
  else if b = byte 'r' then some 13
  else if b = byte 't' then some 9
  else none

/-- **A string after its quote:** the bytes it spells, reversed, whether every escaped pair was
whole, and what follows the closing quote. Each step takes at least one byte. -/
def string? : (fuel : Nat) → (front : List UInt8) → (whole : Bool) → List UInt8 →
    Option (List UInt8 × Bool × List UInt8)
  | 0, _, _, _ => none
  | _, _, _, [] => none
  | fuel + 1, front, whole, b :: rest =>
    if b = byte '"' then some (front, whole, rest)
    else if b < 32 then none
    else if b ≠ byte '\\' then string? fuel (b :: front) whole rest
    else
      match rest with
      | [] => none
      | e :: rest =>
        if e ≠ byte 'u' then
          match shortEscape? e with
          | some x => string? fuel (x :: front) whole rest
          | none => none
        else
          match hexFour? rest with
          | none => none
          | some (n, rest) =>
            if n < 0xD800 ∨ 0xE000 ≤ n then string? fuel (pushChar front n) whole rest
            else
              match rest with
              | x :: y :: more =>
                match (if x = byte '\\' ∧ y = byte 'u' then hexFour? more else none) with
                | some (m, more) =>
                  if n < 0xDC00 ∧ 0xDC00 ≤ m ∧ m < 0xE000 then
                    string? fuel (pushChar front (0x10000 + (n - 0xD800) * 0x400 + (m - 0xDC00)))
                      whole more
                  else string? fuel front false rest
                | none => string? fuel front false rest
              | _ => string? fuel front false rest

/-- A string after its quote, and what follows it. -/
def text? (fuel : Nat) (bytes : List UInt8) : Option (Option String × List UInt8) :=
  (string? fuel [] true bytes).map fun (reversed, whole, rest) =>
    (if whole then Utf8.decode? reversed.reverse else none, rest)

/-! ## Values -/

/-- Reading one part gives it together with what follows; the bytes are gone after a fault. -/
abbrev Step (α : Type) := α × Option (List UInt8)

/-- A bare word after its first letter. -/
def word (rest : List Char) (reading : Reading) (bytes : List UInt8) : Step Reading :=
  if (rest.map byte).isPrefixOf bytes then (reading, some (bytes.drop rest.length))
  else (.fault, none)

mutual

/-- A value at the front of the bytes. -/
def value : (fuel : Nat) → List UInt8 → Step Reading
  | 0, _ => (.fault, none)
  | fuel + 1, bytes =>
    match skipBlanks bytes with
    | [] => (.fault, none)
    | b :: rest =>
      if b = byte 'n' then word ['u', 'l', 'l'] .null rest
      else if b = byte 't' then word ['r', 'u', 'e'] (.bool true) rest
      else if b = byte 'f' then word ['a', 'l', 's', 'e'] (.bool false) rest
      else if b = byte '"' then
        match text? fuel rest with
        | some (s, rest) => (.str s, some rest)
        | none => (.fault, none)
      else if b = byte '[' then
        match skipBlanks rest with
        | [] => (.arr [.fault], none)
        | c :: more =>
          if c = byte ']' then (.arr [], some more)
          else
            let (items, rest) := items fuel rest
            (.arr items, rest)
      else if b = byte '\x7b' then
        match skipBlanks rest with
        | [] => (.obj [(none, .fault)], none)
        | c :: more =>
          if c = byte '\x7d' then (.obj [], some more)
          else
            let (fields, rest) := fields fuel rest
            (.obj fields, rest)
      else
        match (if b = byte '-' then number? true rest
          else if isDigitByte b then number? false (b :: rest) else none) with
        | some (n, rest) => (n, some rest)
        | none => (.fault, none)

/-- The items of an array from the first one on, up to its bracket. -/
def items : (fuel : Nat) → List UInt8 → Step (List Reading)
  | 0, _ => ([.fault], none)
  | fuel + 1, bytes =>
    match value fuel bytes with
    | (v, none) => ([v], none)
    | (v, some rest) =>
      match skipBlanks rest with
      | [] => ([v, .fault], none)
      | c :: rest =>
        if c = byte ']' then ([v], some rest)
        else if c = byte ',' then
          let (more, rest) := items fuel rest
          (v :: more, rest)
        else ([v, .fault], none)

/-- The fields of an object from the first one on, up to its brace. -/
def fields : (fuel : Nat) → List UInt8 → Step (List (Option String × Reading))
  | 0, _ => ([(none, .fault)], none)
  | fuel + 1, bytes =>
    match skipBlanks bytes with
    | [] => ([(none, .fault)], none)
    | q :: rest =>
      if q ≠ byte '"' then ([(none, .fault)], none)
      else
        match text? fuel rest with
        | none => ([(none, .fault)], none)
        | some (key, rest) =>
          match skipBlanks rest with
          | [] => ([(key, .fault)], none)
          | c :: rest =>
            if c ≠ byte ':' then ([(key, .fault)], none)
            else
              match value fuel rest with
              | (v, none) => ([(key, v)], none)
              | (v, some rest) =>
                match skipBlanks rest with
                | [] => ([(key, v), (none, .fault)], none)
                | c :: rest =>
                  if c = byte '\x7d' then ([(key, v)], some rest)
                  else if c = byte ',' then
                    let (more, rest) := fields fuel rest
                    ((key, v) :: more, rest)
                  else ([(key, v), (none, .fault)], none)

end

/-- **The value at the front of a text,** and whether nothing but blanks follows it. Every step of
the reader takes a byte, or goes into a part after taking one. -/
def ofBytes (bytes : List UInt8) : Reading × Bool :=
  match value (2 * bytes.length + 2) bytes with
  | (v, none) => (v, false)
  | (v, some rest) => (v, skipBlanks rest == [])

/-! ## Documents -/

mutual

/-- The reading of a document. -/
def ofJson : Json → Reading
  | .null => .null
  | .bool b => .bool b
  | .num n => .num (some n)
  | .str s => .str (some s)
  | .arr js => .arr (ofItems js)
  | .obj fs => .obj (ofFields fs)
termination_by structural j => j

/-- The readings of items. -/
def ofItems : List Json → List Reading
  | [] => []
  | j :: js => ofJson j :: ofItems js
termination_by structural js => js

/-- The readings of fields. -/
def ofFields : List (String × Json) → List (Option String × Reading)
  | [] => []
  | f :: fs => ofField f :: ofFields fs
termination_by structural fs => fs

/-- The reading of a field. -/
def ofField : String × Json → Option String × Reading
  | (key, value) => (some key, ofJson value)
termination_by structural f => f

end

mutual

/-- The document of a reading without faults, if it nests no deeper than `levels` arrays and
objects. The last of several fields with one key counts. -/
def toJson? (levels : Nat) : Reading → Option Json
  | .null => some .null
  | .bool b => some (.bool b)
  | .num n => n.map .num
  | .str s => s.map .str
  | .arr items =>
    match levels with
    | 0 => none
    | inner + 1 => (toItems? inner items).map .arr
  | .obj fields =>
    match levels with
    | 0 => none
    | inner + 1 => (toFields? inner fields).map Json.object
  | .fault => none
termination_by structural r => r

/-- The documents of items. -/
def toItems? (levels : Nat) : List Reading → Option (List Json)
  | [] => some []
  | r :: rs => do
    let j ← toJson? levels r
    let js ← toItems? levels rs
    return j :: js
termination_by structural rs => rs

/-- The documents of fields. -/
def toFields? (levels : Nat) : List (Option String × Reading) → Option (List (String × Json))
  | [] => some []
  | f :: fs => do
    let x ← toField? levels f
    let xs ← toFields? levels fs
    return x :: xs
termination_by structural fs => fs

/-- The document of a field. -/
def toField? (levels : Nat) : Option String × Reading → Option (String × Json)
  | (key, r) => do
    let k ← key
    let j ← toJson? levels r
    return (k, j)
termination_by structural f => f

end

end Reading

/-- How deep arrays and objects of a text may nest. -/
def greatestDepth : Nat := 127

/-- **The document that a text spells,** if it is well formed to its end. -/
def parse? (bytes : List UInt8) : Option Json :=
  match Reading.ofBytes bytes with
  | (reading, true) => reading.toJson? greatestDepth
  | (_, false) => none

/-- The document that a text spells. -/
def parseText? (s : String) : Option Json := parse? (Text.Utf8.encode s)

end TransferLedger.Json
