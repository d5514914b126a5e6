/-
# TransferLedger.LogStore.Statement -- queries of the tables as statements

A query becomes the text of a statement with a place for each value that it compares with, and the
values are bound in the order of their places. A condition is appended piece by piece; lists of
parts stand in brackets, and a list without parts is a constant.
-/

import TransferLedger.LogStore.Tables
import TransferLedger.Sql.Meaning

namespace TransferLedger

open TransferLedger.Text

/-! ## Pieces -/

/-- **A piece of a statement,** with the values that are bound in it in the order of their places. -/
structure Fragment where
  text : String
  bound : List Sql.Value
deriving DecidableEq, Repr

namespace Fragment

/-- A piece without values. -/
def plain (text : String) : Fragment := ⟨text, []⟩

/-- One piece after another. -/
def append (a b : Fragment) : Fragment := ⟨a.text ++ b.text, a.bound ++ b.bound⟩

instance : Append Fragment := ⟨append⟩

@[simp] theorem text_append (a b : Fragment) : (a ++ b).text = a.text ++ b.text := rfl

@[simp] theorem bound_append (a b : Fragment) : (a ++ b).bound = a.bound ++ b.bound := rfl

/-- Some pieces after a first one, each behind a separator. -/
def joined (separator : String) (first : Fragment) : List Fragment → Fragment
  | [] => first
  | next :: rest => joined separator (first ++ plain separator ++ next) rest

/-- Some pieces in brackets with separators between them, or a constant if there are none. -/
def bracketed (separator constant : String) : List Fragment → Fragment
  | [] => plain constant
  | first :: rest => plain "(" ++ joined separator first rest ++ plain ")"

end Fragment

open Fragment

/-! ## Queries -/

/-- The sign of a comparison. -/
def Comparison.sign : Comparison → String
  | equal => "="
  | unequal => "<>"

/-- The condition that a search is: whether the identity of a line is among those of the lines of the
table of arguments that are what is searched for. -/
def ArgMatch.condition (m : ArgMatch) : Fragment where
  text := "id IN (SELECT log_id FROM tx_log_args WHERE e " ++ m.exponent.sign ++ " ? AND c " ++
    m.limbs.sign ++ " ? AND idx " ++ m.slot.sign ++ " ?)"
  bound := [.integer (exponentColumn m.arg.exponent).toInt, .text (limbsText m.arg.limbs),
    .integer m.arg.slot.toInt64.toInt]

namespace Predicate

mutual

/-- **The condition that a predicate is.** -/
def condition : Predicate → Fragment
  | .all parts => bracketed " AND " "1" (conditions parts)
  | .any parts => bracketed " OR " "0" (conditions parts)
  | .not inner => plain "NOT (" ++ condition inner ++ plain ")"
  | .arg search => search.condition
  | .field f value => ⟨f.name ++ " = ?", [.text (lower value)]⟩
termination_by structural p => p

/-- The conditions that some predicates are. -/
def conditions : List Predicate → List Fragment
  | [] => []
  | p :: rest => condition p :: conditions rest
termination_by structural ps => ps

end

end Predicate

/-- **The statement of a query,** for the values of a field. -/
def LogQuery.statement (q : LogQuery) (f : RowField) : Fragment :=
  plain ("SELECT " ++ f.name ++ " FROM tx_logs WHERE ") ++
    (⟨"signature = ?", [.text (lower q.signature)]⟩ ++ plain " AND " ++ q.predicate.condition) ++
    plain " ORDER BY block_number, tx_index, log_index"

/-! ## Cells -/

/-- The cells of a line of the table of logs. -/
def LogLine.cells (line : LogLine) : Sql.Row :=
  [("id", .text line.id), ("block_number", .integer line.blockNumber.toInt),
    ("tx_index", .integer line.txIndex.toInt), ("log_index", .integer line.logIndex.toInt),
    ("removed", .integer (if line.removed then 1 else 0)), ("signature", .text line.signature),
    ("address", .text line.address), ("log_values", .text line.values),
    ("data_values_start", line.dataValuesStart.elim .null fun start => .integer start.toInt),
    ("args", .text line.args)]

/-- The cells of a line of the table of arguments. -/
def ArgLine.cells (line : ArgLine) : Sql.Row :=
  [("log_id", .text line.logId), ("e", .integer line.exponent.toInt), ("c", .text line.limbs),
    ("idx", .integer line.slot.toInt)]

/-- **The tables as statements see them.** -/
def LogTables.database (tables : LogTables) : Sql.Database
  | "tx_logs" => some (tables.logs.map LogLine.cells)
  | "tx_log_args" => some (tables.args.map ArgLine.cells)
  | _ => none

end TransferLedger
