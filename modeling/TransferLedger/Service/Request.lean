/-
# TransferLedger.Service.Request -- requests and what they ask for

A request has a method, a target, headers and a body. Targets are paths, possibly with a query,
which is not looked at; a whole address counts by its path. The path says what is asked for and the
method has to fit it. A parameter in a path is one segment, not empty, in which bytes may be
escaped.
-/

import TransferLedger.Service.ContentType
import TransferLedger.Text.Percent

namespace TransferLedger

open TransferLedger.Text

/-- **A request.** -/
structure Request where
  method : String
  path : List Char
  headers : List (String × String)
  body : List UInt8
deriving DecidableEq, Repr

namespace Request

/-! ## Targets -/

/-- The characters that a path may hold. -/
def isPathChar (c : Char) : Bool :=
  let n := c.toNat
  n = 0x21 || n = 0x22 || (0x24 ≤ n && n ≤ 0x3B) || n = 0x3D || (0x40 ≤ n && n ≤ 0x5F) ||
    (0x61 ≤ n && n != 0x7F)

/-- The characters that a query may hold. -/
def isQueryChar (c : Char) : Bool :=
  let n := c.toNat
  n = 0x21 || (0x24 ≤ n && n ≤ 0x3B) || n = 0x3D || (0x3F ≤ n && n != 0x7F)

/-- The path of a path with an optional query and fragment. -/
def pathOf? (cs : List Char) : Option (List Char) :=
  let path := cs.takeWhile fun c => c != '?' && c != '#'
  let query :=
    match cs.drop path.length with
    | '?' :: rest => rest.takeWhile (· != '#')
    | _ => []
  if path.all isPathChar && query.all isQueryChar then some path else none

/-- The characters that the part with the host may hold, apart from those with a meaning in it. -/
def isHostChar (c : Char) : Bool :=
  c.isAlphanum || c.toNat = 39 ||
    ['!', '$', '&', '(', ')', '*', '+', ',', '-', '.', ';', '=', '_', '~'].contains c

/-- **What the part with the host has shown so far:** the colons and whether there is an escape,
both since a user or an address in brackets ended, and the brackets. -/
structure HostScan where
  colons : Nat
  escaped : Bool
  opened : Bool
  closed : Bool
deriving DecidableEq, Repr

namespace HostScan

/-- The most colons in a row of groups. -/
def mostColons : Nat := 8

/-- One more character. -/
def step? (s : HostScan) (c : Char) : Option HostScan :=
  if c = ':' then if s.colons < mostColons then some { s with colons := s.colons + 1 } else none
  else if c = '%' then some { s with escaped := true }
  else if c = '@' then some { s with colons := 0, escaped := false }
  else if c = '[' then if s.escaped || s.opened then none else some { s with opened := true }
  else if c = ']' then
    if s.closed || !s.opened then none
    else some { s with colons := 0, escaped := false, closed := true }
  else if isHostChar c then some s
  else none

end HostScan

/-- Whether a text names a host: behind any user and brackets stand one colon at most and no escape,
and brackets come as a pair. -/
def isHost (cs : List Char) : Bool :=
  match cs.foldlM HostScan.step? ⟨0, false, false, false⟩ with
  | some s => s.opened == s.closed && s.colons ≤ 1 && !s.escaped && cs.getLast? != some '@'
  | none => false

/-- The name of a scheme and the text behind its mark, if there is one. -/
def splitScheme? (cs : List Char) : Option (List Char × List Char) :=
  let name := cs.takeWhile fun c => c.isAlphanum || ['+', '-', '.', '~'].contains c
  (stripPrefix? "://".toList (cs.drop name.length)).map (name, ·)

/-- The greatest length of a scheme. -/
def longestScheme : Nat := 64

/-- The greatest length of a target in bytes. -/
def longestTarget : Nat := 65534

/-- **The path of a target.** A lone host has none. -/
def target? (cs : List Char) : Option (List Char) :=
  if longestTarget < cs.foldl (fun n c => n + c.utf8Size) 0 then none
  else
    match cs with
    | [] => none
    | '/' :: _ => pathOf? cs
    | ['*'] => some ['*']
    | _ =>
      match splitScheme? cs with
      | some (name, rest) =>
        let host := rest.takeWhile fun c => c != '/' && c != '?' && c != '#'
        if longestScheme < name.length || host.isEmpty || !isHost host then none
        else
          match pathOf? (rest.drop host.length) with
          | some [] => some ['/']
          | path => path
      | none => if isHost cs then some [] else none

/-! ## Requests -/

/-- Whether a text is a method. -/
def isMethod (cs : List Char) : Bool := !cs.isEmpty && cs.all ContentType.isToken

/-- Whether a text can be the value of a header. -/
def isHeaderValue (cs : List Char) : Bool :=
  cs.all fun c => c = '\t' || (32 ≤ c.toNat && c.toNat != 127)

/-- **The request of these parts,** if each is well formed. -/
def make? (method target : String) (headers : List (String × String)) (body : List UInt8) :
    Option Request := do
  let path ← target? target.toList
  let sound := headers.all fun (name, value) => isMethod name.toList && isHeaderValue value.toList
  if isMethod method.toList && sound then some ⟨method, path, headers, body⟩ else none

/-- The value of a header. -/
def header? (r : Request) (name : String) : Option String :=
  (r.headers.find? fun (n, _) => sameIgnoringCase n name).map (·.2)

/-! ## Routes -/

/-- A parameter of a path as it is written, or decoded if it is text. -/
abbrev Parameter := Option String

/-- **What a path asks for.** -/
inductive Route where
  | health
  | logs
  | accounts
  | account (address : Parameter)
  | event (key : Parameter)
  | stream
deriving DecidableEq, Repr

/-- The text of a segment, unless its bytes are none. -/
def parameter (segment : List Char) : Parameter :=
  Utf8.decode? (percentDecode (Utf8.encode (String.ofList segment)))

/-- The last segment of a path with a given beginning. -/
def segment? (start : String) (path : List Char) : Option (List Char) :=
  match stripPrefix? start.toList path with
  | some (c :: rest) => if (c :: rest).contains '/' then none else some (c :: rest)
  | _ => none

/-- What a path asks for. -/
def route? (path : List Char) : Option Route :=
  if path = "/health".toList then some .health
  else if path = "/logs".toList then some .logs
  else if path = "/accounts".toList then some .accounts
  else if path = "/ws/balances".toList then some .stream
  else
    match segment? "/events/" path with
    | some segment => some (.event (parameter segment))
    | none => (segment? "/accounts/" path).map fun segment => .account (parameter segment)

/-- Whether a method fits a route. Reading a head fits wherever reading does. -/
def Route.admits (route : Route) (method : String) : Bool :=
  match route with
  | logs | accounts | event _ => method = "POST"
  | health | account _ | stream => method = "GET" || method = "HEAD"

end Request

end TransferLedger
