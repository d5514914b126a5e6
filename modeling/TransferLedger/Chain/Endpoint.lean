/-
# TransferLedger.Chain.Endpoint -- addresses of nodes

A node is reached over HTTP. Its address is taken apart leniently, as browsers do: blanks around it
and line breaks in it are dropped, any run of slashes may follow the scheme, backslashes count as
slashes, the host may be escaped or written as a number, and dots in the path are resolved. Writing
an address gives one normal form with the default port left out.
-/

import TransferLedger.Chain.Failure
import TransferLedger.Chain.HostName
import TransferLedger.Text.Percent

namespace TransferLedger

open TransferLedger.Text TransferLedger.Number

/-! ## What is escaped where -/

/-- Controls and everything outside ASCII. -/
def isControl (c : Char) : Bool := c.toNat < 0x20 || 0x7F ≤ c.toNat

/-- What a fragment escapes. -/
def fragmentEscapes (c : Char) : Bool := isControl c || [' ', '"', '<', '>', '`'].contains c

/-- What a query escapes. -/
def queryEscapes (c : Char) : Bool :=
  isControl c || c.toNat = 39 || [' ', '"', '#', '<', '>'].contains c

/-- What a path escapes. -/
def pathEscapes (c : Char) : Bool := fragmentEscapes c || ['#', '?', '\x7b', '\x7d'].contains c

/-- What the name and password of a user escape. -/
def userEscapes (c : Char) : Bool :=
  pathEscapes c || ['/', ':', ';', '=', '@', '[', '\\', ']', '^', '|'].contains c

/-! ## Hosts -/

/-- The number of some digits in a base, if they are all digits of it. -/
def numberIn? (base : Nat) (digits : List Char) : Option Nat :=
  digits.foldlM
    (fun n c => (hexValue? c).bind fun d => if d < base then some (base * n + d) else none) 0

/-- One part of a host written as a number: decimal, octal after a zero, or hex after a mark. -/
def hostNumber? (part : List Char) : Option Nat :=
  match part with
  | [] => none
  | _ =>
    match afterHexMark? part with
    | some digits => numberIn? 16 digits
    | none =>
      match part with
      | '0' :: d :: rest => numberIn? 8 (d :: rest)
      | digits => numberIn? 10 digits

/-- Whether the last part of a host, which makes the whole of it a number, is one. -/
def endsInNumber (parts : List (List Char)) : Bool :=
  let last :=
    match parts.reverse with
    | [] :: before :: _ => before
    | last :: _ => last
    | [] => []
  (!last.isEmpty && last.all fun c => (decimalValue? c).isSome) || (hostNumber? last).isSome

/-- The four bytes of a host written as at most four numbers, the last of which fills the rest. -/
def numericHost? (parts : List (List Char)) : Option (List Nat) := do
  let parts := if parts.getLast? = some [] then parts.dropLast else parts
  if 4 < parts.length then none
  let numbers ← parts.mapM hostNumber?
  let last ← numbers.getLast?
  let front := numbers.dropLast
  if front.any (255 < ·) || 256 ^ (4 - front.length) ≤ last then none
  let rest := (List.range (4 - front.length)).reverse.map fun i => last / 256 ^ i % 256
  return front ++ rest

/-- A group of an address in brackets: at most four hex digits. -/
def group? (digits : List Char) : Option Nat :=
  if digits.isEmpty || 4 < digits.length then none else hexNat? digits

/-- A byte of dotted numbers at the end of an address in brackets: no zero in front. -/
def dottedByte? (digits : List Char) : Option Nat :=
  match digits with
  | [] => none
  | '0' :: _ :: _ => none
  | _ => (numberIn? 10 digits).filter (· ≤ 255)

/-- The groups of a part of an address in brackets that holds no gap. The last piece may be four
dotted numbers where `mayDot` allows it. -/
def groups? (mayDot : Bool) (part : List Char) : Option (List Nat) :=
  if part.isEmpty then some []
  else do
    let pieces := splitAt ':' part
    let last := pieces.getLastD []
    if mayDot && last.contains '.' then
      let front ← pieces.dropLast.mapM group?
      let bytes ← (splitAt '.' last).mapM dottedByte?
      match bytes with
      | [a, b, c, d] => return front ++ [256 * a + b, 256 * c + d]
      | _ => none
    else pieces.mapM group?

/-- The text before and after the first gap `::`. -/
def splitGap? : List Char → Option (List Char × List Char)
  | ':' :: ':' :: rest => some ([], rest)
  | c :: rest => (splitGap? rest).map fun (before, after) => (c :: before, after)
  | [] => none

/-- The eight groups of an address in brackets. A gap stands for at least one group of zeros. -/
def bracketed? (cs : List Char) : Option (List Nat) :=
  match splitGap? cs with
  | none => (groups? true cs).filter (·.length == 8)
  | some (before, after) => do
    let front ← groups? false before
    let back ← groups? true after
    if 7 < front.length + back.length then none
    return front ++ List.replicate (8 - front.length - back.length) 0 ++ back

/-- The longest run of zero groups, the first of equal ones, as its start and length. -/
def longestZeros : (place : Nat) → List Nat → Nat × Nat
  | _, [] => (0, 0)
  | place, g :: rest =>
    let run := ((g :: rest).takeWhile (· == 0)).length
    let later := longestZeros (place + 1) rest
    if later.2 ≤ run then (place, run) else later

/-- An address in brackets, its longest run of zeros written as a gap. -/
def renderGroups (groups : List Nat) : List Char :=
  let texts (gs : List Nat) : List Char := join ':' (gs.map (Nat.toDigits 16))
  let (start, run) := longestZeros 0 groups
  let body :=
    if run < 2 then texts groups
    else texts (groups.take start) ++ ':' :: ':' :: texts (groups.drop (start + run))
  '[' :: body ++ [']']

/-- **The normal form of a host:** an address, or labels that are each in ASCII. -/
def host? (cs : List Char) : Option (List Char) :=
  match cs with
  | [] => none
  | '[' :: rest =>
    match rest.reverse with
    | ']' :: inner => (bracketed? inner.reverse).map renderGroups
    | _ => none
  | _ => do
    let decoded ← Utf8.decode? (percentDecode (Utf8.encode (String.ofList cs)))
    let labels ← HostName.labels? decoded.toList
    if labels == [[]] then none
    else if endsInNumber labels then
      let bytes ← numericHost? labels
      return join '.' (bytes.map decimal)
    else return join '.' labels

/-! ## Addresses -/

/-- **The address of a node.** -/
structure Endpoint where
  secure : Bool
  /-- The user as written before the host, with its `@`. -/
  user : List Char
  host : List Char
  port : Option Nat
  path : List (List Char)
  /-- The query with its `?` and the fragment with its `#`. -/
  suffix : List Char
deriving DecidableEq, Repr

namespace Endpoint

/-- The port that a scheme uses unless another is given. -/
def defaultPort (secure : Bool) : Nat := if secure then 443 else 80

/-- The scheme of a text and what follows its colon. -/
def scheme? (cs : List Char) : Option (Bool × List Char) :=
  let name := (cs.takeWhile (· != ':')).map Char.toLower
  match cs.dropWhile (· != ':') with
  | ':' :: rest =>
    if name = "http".toList then some (false, rest)
    else if name = "https".toList then some (true, rest)
    else none
  | _ => none

/-- Whether a character ends the part with user, host and port. -/
def endsAuthority (c : Char) : Bool := c = '/' || c = '\\' || c = '?' || c = '#'

/-- The text before and after the last `@`. -/
def splitUser? (cs : List Char) : Option (List Char × List Char) :=
  let back := cs.reverse
  match back.dropWhile (· != '@') with
  | '@' :: before => some (before.reverse, (back.takeWhile (· != '@')).reverse)
  | _ => none

/-- The name and password of a user as they are written, with an `@` if there is any. -/
def renderUser (cs : List Char) : List Char :=
  let name := percentEncode userEscapes (cs.takeWhile (· != ':'))
  let password := percentEncode userEscapes ((cs.dropWhile (· != ':')).drop 1)
  let both := if password.isEmpty then name else name ++ ':' :: password
  if both.isEmpty then [] else both ++ ['@']

/-- The text of the host and of the port behind it. A colon within brackets belongs to the host. -/
def splitPort : (bracketed : Bool) → List Char → List Char × List Char
  | _, [] => ([], [])
  | inside, c :: cs =>
    if c = ':' && !inside then ([], c :: cs)
    else
      let (host, port) := splitPort (if c = '[' then true else if c = ']' then false else inside) cs
      (c :: host, port)

/-- The port after a colon: no digits stand for none, and the default one is left out. -/
def port? (secure : Bool) : List Char → Option (Option Nat)
  | [] => some none
  | _ :: digits => do
    let n ← decimalNat? digits
    if 65535 < n then none
    return if digits.isEmpty || n = defaultPort secure then none else some n

/-- Whether a segment of a path names the segment itself. -/
def isDot (segment : List Char) : Bool :=
  let s := segment.map Char.toLower
  s = ['.'] || s = "%2e".toList

/-- Whether a segment of a path names the one before it. -/
def isDoubleDot (segment : List Char) : Bool :=
  let s := segment.map Char.toLower
  s = ['.', '.'] || s = ".%2e".toList || s = "%2e.".toList || s = "%2e%2e".toList

/-- Whether a segment names a drive: a letter and a colon or bar. -/
def isDrive : List Char → Bool
  | [letter, c] => letter.isAlpha && (c = ':' || c = '|')
  | _ => false

/-- The segments without the last one. A drive stays. -/
def parent (kept : List (List Char)) : List (List Char) :=
  if kept.getLast?.any isDrive then kept else kept.dropLast

/-- The segments of a path with dots resolved: a dot goes away and a double dot takes the segment
before it along; at the end either leaves an empty segment. -/
def resolve : (kept : List (List Char)) → List (List Char) → List (List Char)
  | kept, [] => kept
  | kept, [last] =>
    if isDoubleDot last then parent kept ++ [[]]
    else if isDot last then kept ++ [[]]
    else kept ++ [last]
  | kept, segment :: next :: rest =>
    if isDoubleDot segment then resolve (parent kept) (next :: rest)
    else if isDot segment then resolve kept (next :: rest)
    else resolve (kept ++ [segment]) (next :: rest)

/-- The segments of a path. -/
def segments (cs : List Char) : List (List Char) :=
  let slashed := cs.map fun c => if c = '\\' then '/' else c
  let inner :=
    match slashed with
    | '/' :: rest => rest
    | all => all
  resolve [] ((splitAt '/' inner).map (percentEncode pathEscapes))

/-- The query and the fragment, each escaped as its kind asks. -/
def escapeSuffix (cs : List Char) : List Char :=
  let query := cs.takeWhile (· != '#')
  let fragment := (cs.dropWhile (· != '#')).drop 1
  let hasFragment := cs.contains '#'
  (match query with
    | '?' :: q => '?' :: percentEncode queryEscapes q
    | _ => []) ++
  (if hasFragment then '#' :: percentEncode fragmentEscapes fragment else [])

/-- Whether a character is dropped at the ends of an address. -/
def isEdge (c : Char) : Bool := c.toNat ≤ 0x20

/-- The characters of an address that count. -/
def clean (cs : List Char) : List Char :=
  let inner := ((cs.dropWhile isEdge).reverse.dropWhile isEdge).reverse
  inner.filter fun c => c != '\t' && c != '\n' && c != '\r'

/-- **The address that a text writes.** -/
def parse? (text : String) : Option Endpoint := do
  let (secure, afterScheme) ← scheme? (clean text.toList)
  let cs := afterScheme.dropWhile fun c => c = '/' || c = '\\'
  let authority := cs.takeWhile (!endsAuthority ·)
  let rest := cs.dropWhile (!endsAuthority ·)
  let (user, hostPort) := (splitUser? authority).getD ([], authority)
  let (hostText, portText) := splitPort false hostPort
  let host ← host? hostText
  let port ← port? secure portText
  let pathText := rest.takeWhile fun c => c != '?' && c != '#'
  return {
    secure := secure
    user := renderUser user
    host := host
    port := port
    path := segments pathText
    suffix := escapeSuffix (rest.dropWhile fun c => c != '?' && c != '#') }

/-- The normal form of an address. -/
def render (e : Endpoint) : String :=
  String.ofList
    ((if e.secure then "https://" else "http://").toList ++ e.user ++ e.host ++
      (match e.port with
        | some n => ':' :: decimal n
        | none => []) ++
      e.path.flatMap ('/' :: ·) ++ e.suffix)

end Endpoint

end TransferLedger
