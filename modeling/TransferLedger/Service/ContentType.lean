/-
# TransferLedger.Service.ContentType -- what kind of body a request announces

A request announces a document by the type `application/json`, with any suffix or none, or by any
`application` type with the suffix `json`. Parameters may follow, each a name and a value that may
be quoted; an ill-formed one spoils the whole announcement. Letter case does not matter.
-/

import TransferLedger.Text.Ascii

namespace TransferLedger.ContentType

/-- The characters of names and of plain values. -/
def isToken (c : Char) : Bool :=
  c.isAlphanum || c.toNat = 39 ||
    ['!', '#', '$', '%', '&', '*', '+', '-', '.', '^', '_', '|', '~'].contains c || c.toNat = 96

/-- The characters that a quoted value may hold. -/
def isQuotable (c : Char) : Bool := 32 ≤ c.toNat && c.toNat < 127

/-- What follows a quoted value and its closing quote. The value is not empty, and only its first
character may be a quote. -/
def afterValue? : List Char → Option (List Char)
  | [] => none
  | c :: cs =>
    match cs.dropWhile fun c => c != '"' && isQuotable c with
    | '"' :: after => if isQuotable c then some after else none
    | _ => none

/-- What follows the closing quote: blanks, and then nothing or the next parameter. -/
def afterBlanks? : List Char → Option (List Char)
  | [] => some []
  | ';' :: rest => some rest
  | ' ' :: rest => afterBlanks? rest
  | _ :: _ => none

/-- Whether a text is a list of parameters. Each takes a character at least. -/
def areParameters : (fuel : Nat) → List Char → Bool
  | 0, cs => cs.isEmpty
  | _, [] => true
  | fuel + 1, cs =>
    let cs := cs.dropWhile (· == ' ')
    let name := cs.takeWhile isToken
    match name, cs.dropWhile isToken with
    | [], [] => true
    | _ :: _, '=' :: '"' :: rest =>
      match (afterValue? rest).bind afterBlanks? with
      | some next => areParameters fuel next
      | none => false
    | _ :: _, '=' :: rest =>
      let value := rest.takeWhile isToken
      match value, rest.drop value.length with
      | _, [] => true
      | _ :: _, ';' :: next => areParameters fuel next
      | _, _ => false
    | _, _ => false

/-- A subtype without its suffix, and the suffix: what follows the last `+`, unless that is the
first character. -/
def splitSuffix (subtype : List Char) : List Char × Option (List Char) :=
  let suffix := (subtype.reverse.takeWhile (· != '+')).reverse
  let before := subtype.take (subtype.length - suffix.length - 1)
  if before.isEmpty then (subtype, none) else (before, some suffix)

/-- **Whether an announcement is one of a document.** -/
def isJson (announced : String) : Bool :=
  let cs := (Text.lower announced).toList
  let type := cs.takeWhile (· != '/')
  let rest := (cs.dropWhile (· != '/')).drop 1
  let subtype := rest.takeWhile isToken
  let parameters :=
    match rest.drop subtype.length with
    | [] => true
    | ';' :: after => areParameters after.length after
    | _ :: _ => false
  let (name, suffix) := splitSuffix subtype
  cs.contains '/' && type == "application".toList && parameters &&
    (name == "json".toList || suffix == some "json".toList)

end TransferLedger.ContentType
