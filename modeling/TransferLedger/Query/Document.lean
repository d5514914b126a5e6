/-
# TransferLedger.Query.Document -- queries in the syntax of a document store

A query is written as one object: the signature of the event next to the predicate. Conjunctions and
disjunctions become lists of clauses, never empty ones, as a document store refuses these. The
search for an argument is an element match, and a component that must differ is wrapped in `$ne`.
-/

import TransferLedger.Query.Predicate

namespace TransferLedger

/-- A component of an element match. -/
def Comparison.document : Comparison → Json → Json
  | equal, value => value
  | unequal, value => .object [("$ne", value)]

/-- The element match of a search. -/
def ArgMatch.document (m : ArgMatch) : Json :=
  .object [("e", m.exponent.document (.nat m.arg.exponent.toNat)),
    ("c", m.limbs.document (.arr (m.arg.limbs.map fun limb => .nat limb.toNat))),
    ("index", m.slot.document (.nat m.arg.slot.toNat))]

/-- The clause that every row satisfies. -/
def Json.emptyClause : Json := .obj []

namespace Predicate

mutual

/-- **A predicate as one clause of a list.** -/
def clause : Predicate → Json
  | .all [] => .emptyClause
  | .any [] => .object [("$nor", .arr [.emptyClause])]
  | .all (p :: parts) => .object [("$and", .arr (clause p :: clauses parts))]
  | .any (p :: parts) => .object [("$or", .arr (clause p :: clauses parts))]
  | .not (.arg search) =>
    .object [("args", .object [("$not", .object [("$elemMatch", search.document)])])]
  | .not inner => .object [("$nor", .arr [clause inner])]
  | .arg search => .object [("args", .object [("$elemMatch", search.document)])]
  | .field f value => .object [(f.name, .str value)]
termination_by structural p => p

/-- Some predicates as clauses. -/
def clauses : List Predicate → List Json
  | [] => []
  | p :: rest => clause p :: clauses rest
termination_by structural ps => ps

end

/-- The field of a query document that holds a predicate, if it takes one. -/
def topClause : Predicate → List (String × Json)
  | .all [] => []
  | .any [] => [("$nor", .arr [.emptyClause])]
  | .all parts => [("$and", .arr (clauses parts))]
  | .any parts => [("$or", .arr (clauses parts))]
  | p => [("$and", .arr [p.clause])]

end Predicate

/-- **A query as a document.** -/
def LogQuery.document (q : LogQuery) : Json :=
  .object (("signature", .str q.signature) :: q.predicate.topClause)

end TransferLedger
