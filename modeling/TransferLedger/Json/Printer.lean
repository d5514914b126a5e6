/-
# TransferLedger.Json.Printer -- documents as text

A document is written without blanks, its fields in the order they are kept. A string escapes the
quote, the backslash and the control characters, five of which have short names.
-/

import TransferLedger.Json.Basic

namespace TransferLedger.Json

open TransferLedger.Number

/-- How one character stands inside a string. -/
def escapeChar (c : Char) : List Char :=
  if c = '"' then ['\\', '"']
  else if c = '\\' then ['\\', '\\']
  else if c = '\n' then ['\\', 'n']
  else if c = '\r' then ['\\', 'r']
  else if c = '\t' then ['\\', 't']
  else if c.toNat = 8 then ['\\', 'b']
  else if c.toNat = 12 then ['\\', 'f']
  else if c.toNat < 32 then
    ['\\', 'u', '0', '0', Nat.digitChar (c.toNat / 16), Nat.digitChar (c.toNat % 16)]
  else [c]

/-- A text between quotes. -/
def quote (s : String) : String :=
  String.ofList ('"' :: s.toList.flatMap escapeChar ++ ['"'])

/-- The text of a number. -/
def Number.render : Json.Number → String
  | .integer n => intText n
  | .fraction x => x.render

mutual

/-- **The text of a document.** -/
def render : Json → String
  | .null => "null"
  | .bool true => "true"
  | .bool false => "false"
  | .num n => n.render
  | .str s => quote s
  | .arr items => "[" ++ ",".intercalate (renderItems items) ++ "]"
  | .obj fields => "\x7b" ++ ",".intercalate (renderFields fields) ++ "\x7d"
termination_by structural j => j

/-- The texts of the items of an array. -/
def renderItems : List Json → List String
  | [] => []
  | j :: rest => render j :: renderItems rest
termination_by structural js => js

/-- The texts of the fields of an object. -/
def renderFields : List (String × Json) → List String
  | [] => []
  | f :: rest => renderField f :: renderFields rest
termination_by structural fs => fs

/-- The text of one field. -/
def renderField : String × Json → String
  | (key, value) => quote key ++ ":" ++ render value
termination_by structural f => f

end

end TransferLedger.Json
