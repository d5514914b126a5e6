/-
# TransferLedger.Sql.Reading -- the statement that a text spells

A text is cut into words and signs, character by character, and these are put together to a
statement, token by token. A comparison binds more tightly than `NOT`, which binds more tightly than
`AND`, which binds more tightly than `OR`; of two of a kind the left one comes first. Words are read
without regard to letter case.
-/

import TransferLedger.Number.Digits
import TransferLedger.Sql.Language

namespace TransferLedger.Sql

open TransferLedger.Text TransferLedger.Number

/-! ## Cutting a text into tokens -/

/-- Whether a character can stand in a word. -/
def isNameChar (c : Char) : Bool := c.isAlphanum || c == '_'

/-- The token of a word: a number, a word with a meaning of its own, or a name. -/
def wordToken (cs : List Char) : Token :=
  match decimalNat? cs with
  | some n => .number n
  | none =>
    let word := lower (String.ofList cs)
    match keywords.lookup word with
    | some k => .keyword k
    | none => .name word

/-- The signs of one character. -/
def signs : List (Char × Token) :=
  [('?', .parameter), ('(', .opening), (')', .closing), (',', .comma), ('=', .comparison .equal)]

/-- **How far a text has been cut:** the letters of the word at the end and the tokens before it,
both reversed, and whether a `<` waits for the rest of its sign. -/
structure Lexer where
  word : List Char
  less : Bool
  tokens : List Token
deriving DecidableEq, Repr

namespace Lexer

/-- The lexer with the word at the end made a token. -/
def flush (l : Lexer) : Lexer :=
  match l.word with
  | [] => l
  | cs => { l with word := [], tokens := wordToken cs.reverse :: l.tokens }

/-- The lexer after a character, unless that cannot be read. -/
def step (l : Lexer) (c : Char) : Option Lexer :=
  if l.less then
    if c = '>' then some { l with less := false, tokens := .comparison .unequal :: l.tokens }
    else none
  else if isNameChar c then some { l with word := c :: l.word }
  else if c = ' ' then some l.flush
  else if c = '<' then some { l.flush with less := true }
  else (signs.lookup c).map fun t => { l.flush with tokens := t :: l.flush.tokens }

/-- The lexer after some characters. -/
def run (l : Lexer) (cs : List Char) : Option Lexer := cs.foldlM step l

/-- A lexer that has read nothing but some tokens. -/
def clean (tokens : List Token) : Lexer := ⟨[], false, tokens⟩

end Lexer

/-- **The tokens of a text.** -/
def tokens? (text : String) : Option (List Token) := do
  let l ← (Lexer.clean []).run text.toList
  if l.less then none else some l.flush.tokens.reverse

/-! ## Putting tokens together -/

/-- **How far a condition has been read.** -/
structure Clause where
  /-- The parts of a disjunction in front of the current one. -/
  disjunction : Option Expr
  /-- The parts of a conjunction in front of the current one. -/
  conjunction : Option Expr
  /-- How many `NOT`s stand in front of the current part. -/
  negations : Nat
  /-- The left side of a comparison whose right side is still to come. -/
  comparing : Option (Expr × Comparison)
  /-- What has been read of the current part. -/
  part : Option Expr
deriving DecidableEq, Repr

namespace Clause

/-- The clause of a condition of which nothing has been read. -/
def empty : Clause := ⟨none, none, 0, none, none⟩

/-- The clause with an operand more. -/
def give (f : Clause) (e : Expr) : Option Clause :=
  match f.part, f.comparing with
  | none, none => some { f with part := some e }
  | none, some (left, c) => some { f with comparing := none, part := some (.compare c left e) }
  | some _, _ => none

/-- The clause with a comparison begun. -/
def compare (f : Clause) (c : Comparison) : Option Clause :=
  match f.part with
  | some e => some { f with comparing := some (e, c), part := none }
  | none => none

/-- The clause with a `NOT` more. -/
def negate (f : Clause) : Option Clause :=
  match f.part, f.comparing with
  | none, none => some { f with negations := f.negations + 1 }
  | _, _ => none

/-- An expression under so many `NOT`s. -/
def negated (e : Expr) : Nat → Expr
  | 0 => e
  | n + 1 => .not (negated e n)

/-- An expression after the ones in front of it. -/
def after (join : Expr → Expr → Expr) (front : Option Expr) (e : Expr) : Expr :=
  match front with
  | none => e
  | some before => join before e

/-- The conjunction up to the end of the current part. -/
def conjoined (f : Clause) : Option Expr :=
  f.part.map fun e => after .and f.conjunction (negated e f.negations)

/-- The disjunction up to the end of the current part. -/
def disjoined (f : Clause) : Option Expr := f.conjoined.map (after .or f.disjunction)

/-- The clause after an `AND`. -/
def conjoin (f : Clause) : Option Clause :=
  f.conjoined.map fun e => ⟨f.disjunction, some e, 0, none, none⟩

/-- The clause after an `OR`. -/
def disjoin (f : Clause) : Option Clause := f.disjoined.map fun e => ⟨some e, none, 0, none, none⟩

end Clause

/-- How far the head of an inner selection has been read, after the value that is looked for. -/
inductive Head where
  | announced
  | opened
  | selecting
  | selected (column : String)
  | sourcing (column : String)
  | sourced (column table : String)
deriving DecidableEq, Repr

/-- What a closing bracket ends. -/
inductive Closing where
  | group
  | among (subject : Expr) (column table : String)
deriving DecidableEq, Repr

/-- **How far a statement has been read:** the condition at hand, the ones around it with what ends
the one inside, the head of an inner selection, and how many parameters there were. -/
structure Reader where
  clause : Clause
  outer : List (Clause × Closing)
  head : Option (Expr × Head)
  parameters : Nat
deriving DecidableEq, Repr

namespace Reader

/-- A reader of which nothing has been read. -/
def start : Reader := ⟨.empty, [], none, 0⟩

/-- The reader after a token of the head of an inner selection. -/
def stepHead (s : Reader) (subject : Expr) : Head → Token → Option Reader
  | .announced, .opening => some { s with head := some (subject, .opened) }
  | .opened, .keyword .select => some { s with head := some (subject, .selecting) }
  | .selecting, .name c => some { s with head := some (subject, .selected c) }
  | .selected c, .keyword .source => some { s with head := some (subject, .sourcing c) }
  | .sourcing c, .name t => some { s with head := some (subject, .sourced c t) }
  | .sourced c t, .keyword .whenever =>
    some { s with
      clause := .empty
      outer := (s.clause, .among subject c t) :: s.outer
      head := none }
  | _, _ => none

/-- The reader with another clause at hand, if there is one. -/
def within (s : Reader) (f : Option Clause) : Option Reader := f.map fun f => { s with clause := f }

/-- The reader after a closing bracket. -/
def close (s : Reader) : Option Reader :=
  match s.clause.disjoined, s.outer with
  | some e, (f, .group) :: outer => { s with outer := outer }.within (f.give e)
  | some e, (f, .among subject c t) :: outer =>
    { s with outer := outer }.within (f.give (.among subject c t e))
  | _, _ => none

/-- The reader after a token of a condition. -/
def stepCondition (s : Reader) : Token → Option Reader
  | .number n => s.within (s.clause.give (.number n))
  | .name c => s.within (s.clause.give (.column c))
  | .parameter =>
    { s with parameters := s.parameters + 1 }.within (s.clause.give (.parameter s.parameters))
  | .comparison c => s.within (s.clause.compare c)
  | .keyword .not => s.within s.clause.negate
  | .keyword .and => s.within s.clause.conjoin
  | .keyword .or => s.within s.clause.disjoin
  | .keyword .among =>
    match s.clause.part with
    | some e => some { s with clause := { s.clause with part := none }, head := some (e, .announced) }
    | none => none
  | .opening =>
    match s.clause.part with
    | none => some { s with clause := .empty, outer := (s.clause, .group) :: s.outer }
    | some _ => none
  | .closing => s.close
  | _ => none

/-- **The reader after a token,** if that can stand there. -/
def step (s : Reader) (t : Token) : Option Reader :=
  match s.head with
  | some (subject, head) => s.stepHead subject head t
  | none => s.stepCondition t

/-- The reader after some tokens. -/
def run (s : Reader) (ts : List Token) : Option Reader := ts.foldlM step s

/-- The condition that has been read, if nothing is left open. -/
def condition? (s : Reader) : Option Expr :=
  match s.head, s.outer with
  | none, [] => s.clause.disjoined
  | _, _ => none

end Reader

/-- The columns between commas. -/
def columns? : List Token → Option (List String)
  | [.name c] => some [c]
  | .name c :: .comma :: rest => (columns? rest).map (c :: ·)
  | _ => none

/-- **The statement that some tokens make.** -/
def selection? (ts : List Token) : Option Selection :=
  match ts with
  | .keyword .select :: .name column :: .keyword .source :: .name table :: .keyword .whenever ::
      rest => do
    let s ← Reader.start.run (rest.takeWhile (· != .keyword .order))
    let condition ← s.condition?
    match rest.dropWhile (· != .keyword .order) with
    | .keyword .order :: .keyword .by :: columns =>
      return ⟨column, table, condition, ← columns? columns, s.parameters⟩
    | _ => none
  | _ => none

/-- The statement that a text spells. -/
def ofText? (text : String) : Option Selection := (tokens? text).bind selection?

end TransferLedger.Sql
