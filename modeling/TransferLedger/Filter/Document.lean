/-
# TransferLedger.Filter.Document -- filters written as documents

A filter document is an object. Each key is a boolean operator over documents, the word `address`
for the emitting contract, or the name of an argument with a value or an object of comparisons.
Several keys are a conjunction, and so are several comparisons of one argument; a single one stands
for itself.
-/

import TransferLedger.Filter.Basic
import TransferLedger.Filter.Failure

namespace TransferLedger.LogFilter

/-! ## Arguments -/

/-- The text of a string value. Any other value is reported as it is written. -/
def stringOf (name : String) : Json → Except FilterFailure String
  | .str s => .ok s
  | value => .error (.malformedValue name value.render)

/-- The texts of a list of values. -/
def stringsOf (name : String) : Json → Except FilterFailure (List String)
  | .arr items => items.mapM (stringOf name)
  | _ => .error (.malformedDocument (.valuesExpected name))

/-- One comparison of an argument. -/
def comparison (name operator : String) (operand : Json) : Except FilterFailure LogFilter :=
  match operator with
  | "$eq" => (stringOf name operand).map fun v => .arg name (.equals v)
  | "$ne" => (stringOf name operand).map fun v => .arg name (.differs v)
  | "$in" => (stringsOf name operand).map fun vs => .arg name (.oneOf vs)
  | "$nin" => (stringsOf name operand).map fun vs => .arg name (.noneOf vs)
  | _ => .error (.malformedDocument (.unknownComparison operator name))

/-- What a document asks of one argument. -/
def argument (name : String) : Json → Except FilterFailure LogFilter
  | .obj [] => .error (.malformedDocument (.noCondition name))
  | .obj operators =>
    (operators.mapM fun (operator, operand) => comparison name operator operand).map conjunction
  | value => (stringOf name value).map fun v => .arg name (.equals v)

/-! ## Documents -/

mutual

/-- **The filter that a document writes.** -/
def ofDocument : Json → Except FilterFailure LogFilter
  | .obj fields => (ofFields fields).map conjunction
  | _ => .error (.malformedDocument .notAnObject)
termination_by structural d => d

/-- The filters of the keys of an object, in their order. -/
def ofFields : List (String × Json) → Except FilterFailure (List LogFilter)
  | [] => .ok []
  | field :: rest => do
    let filter ← ofField field
    let filters ← ofFields rest
    return filter :: filters
termination_by structural fields => fields

/-- The filter of one key. -/
def ofField : String × Json → Except FilterFailure LogFilter
  | (key, value) =>
    if key = "$or" then (ofList key value).map .any
    else if key = "$and" then (ofList key value).map .all
    else if key = "$nor" then (ofList key value).map fun parts => .not (.any parts)
    else if key = "$not" then (ofDocument value).map .not
    else if key = "address" then (stringOf key value).map .address
    else if key.toList.head? = some '$' then
      .error (.malformedDocument (.unknownOperator key))
    else argument key value
termination_by structural field => field

/-- The filters of a list of documents. -/
def ofList (operator : String) : Json → Except FilterFailure (List LogFilter)
  | .arr items => ofDocuments items
  | _ => .error (.malformedDocument (.listExpected operator))
termination_by structural list => list

/-- The filters of some documents, in their order. -/
def ofDocuments : List Json → Except FilterFailure (List LogFilter)
  | [] => .ok []
  | document :: rest => do
    let filter ← ofDocument document
    let filters ← ofDocuments rest
    return filter :: filters
termination_by structural documents => documents

end

end TransferLedger.LogFilter
