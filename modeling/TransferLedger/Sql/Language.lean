/-
# TransferLedger.Sql.Language -- the part of SQL that queries are written in

A statement selects one column of the lines of one table that meet a condition, in an order given by
some columns. Conditions are built from comparisons of numbers, parameters and columns, from the
connectives, and from asking whether a value is among those that another selection finds.
-/

import TransferLedger.Query.Predicate

namespace TransferLedger.Sql

/-! ## Words and signs -/

/-- The words with a meaning of their own. -/
inductive Keyword where
  | select
  | source
  | whenever
  | and
  | or
  | not
  | among
  | order
  | by
deriving DecidableEq, Repr

/-- One word or sign of a statement. -/
inductive Token where
  | keyword (k : Keyword)
  | name (n : String)
  | number (n : Nat)
  /-- A place for a value that is bound later. -/
  | parameter
  | opening
  | closing
  | comma
  | comparison (c : Comparison)
deriving DecidableEq, Repr

/-- How the words with a meaning of their own are written, in lower case. -/
def keywords : List (String × Keyword) :=
  [("select", .select), ("from", .source), ("where", .whenever), ("and", .and), ("or", .or),
    ("not", .not), ("in", .among), ("order", .order), ("by", .by)]

/-! ## Statements -/

/-- **An expression.** Parameters are numbered from zero in the order of the text. -/
inductive Expr where
  | number (n : Nat)
  | parameter (index : Nat)
  | column (name : String)
  | compare (c : Comparison) (left right : Expr)
  | not (inner : Expr)
  | and (left right : Expr)
  | or (left right : Expr)
  /-- Whether a value is among those of a column over the lines of a table that meet a condition. -/
  | among (subject : Expr) (column table : String) (condition : Expr)
deriving DecidableEq, Repr

/-- **A statement.** -/
structure Selection where
  column : String
  table : String
  condition : Expr
  /-- The columns that give the order, the first one before the others. -/
  order : List String
  /-- How many values are bound. -/
  parameters : Nat
deriving DecidableEq, Repr

/-! ## Values -/

/-- **What a cell holds.** -/
inductive Value where
  | null
  | integer (n : Int)
  | text (s : String)
deriving DecidableEq, Repr

/-- The cells of a line by their column. -/
abbrev Row := List (String × Value)

/-- The lines of each table. -/
abbrev Database := String → Option (List Row)

end TransferLedger.Sql
