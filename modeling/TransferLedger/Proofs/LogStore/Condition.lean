/-
# TransferLedger.Proofs.LogStore.Condition -- the condition of a predicate means the predicate

The text of a condition is read token by token into an expression. An operand is a piece that can
stand between connectives: read at the start of a part, wherever that is, it makes up the part and
uses as many places as it has values. Operands in a row with one connective between them make a
series, and a series in brackets is an operand again. So by induction on the predicate its condition is
an operand, and it means for every line what the predicate means.
-/

import TransferLedger.LogStore.Statement
import TransferLedger.Proofs.Query.Building
import TransferLedger.Proofs.Sql.Cutting
import TransferLedger.Proofs.Sql.Meaning

namespace TransferLedger

open TransferLedger.Sql TransferLedger.Text

/-! ## Operands -/

/-- **A piece is an operand that means a property of lines:** read at the start of any part it makes
up the part. -/
def Operand (tables : LogTables) (piece : Fragment) (has : LogLine → Bool) : Prop :=
  ∃ ts, Cuts piece.text ts ∧ ∀ d c n outer k, ∃ m e,
    Reader.run ⟨⟨d, c, n, none, none⟩, outer, none, k⟩ ts =
        some ⟨⟨d, c, n + m, none, some e⟩, outer, none, k + piece.bound.length⟩ ∧
      ∀ bound, BoundAt bound k piece.bound →
        Means tables.database bound (Clause.negated e m) (fun line => [line.cells]) has

variable {tables : LogTables}

theorem operand_one : Operand tables (.plain "1") fun _ => true :=
  ⟨[.number 1], ⟨⟨['1'], false, []⟩, rfl, rfl⟩, fun _ _ _ _ _ =>
    ⟨0, .number 1, rfl, fun _ _ _ => rfl⟩⟩

theorem operand_zero : Operand tables (.plain "0") fun _ => false :=
  ⟨[.number 0], ⟨⟨['0'], false, []⟩, rfl, rfl⟩, fun _ _ _ _ _ =>
    ⟨0, .number 0, rfl, fun _ _ _ => rfl⟩⟩

theorem lookup_name (f : RowField) (line : LogLine) :
    line.cells.lookup f.name = some (.text (line.read f)) := by
  cases f <;> rfl

/-- A field is compared with the value bound at its place. -/
theorem operand_field (f : RowField) (wanted : String) :
    Operand tables ⟨f.name ++ " = ?", [.text wanted]⟩ fun line => line.read f == wanted := by
  have cut : CutsWhole (f.name ++ " = ?") [.name f.name, .comparison .equal, .parameter] := by
    cases f <;> rfl
  refine ⟨_, cut.cuts, fun d c n outer k => ?_⟩
  refine ⟨0, .compare .equal (.column f.name) (.parameter k), rfl, fun bound bounds => ?_⟩
  have value : bound[k]? = some (.text wanted) := bounds.getElem? Nat.one_pos
  have column : ∀ line : LogLine,
      value? tables.database bound (.column f.name) [line.cells] = some (.text (line.read f)) := by
    intro line
    simp [value?, lookup_name]
  exact Means.compare column (fun _ => value) fun _ => rfl

theorem cutsWhole_sign (c : Comparison) : CutsWhole c.sign [.comparison c] := by
  cases c <;> rfl

/-- The tokens of the search for an argument. -/
def searchTokens (m : ArgMatch) : List Token :=
  [.name "id", .keyword .among, .opening, .keyword .select, .name "log_id", .keyword .source,
    .name "tx_log_args", .keyword .whenever, .name "e", .comparison m.exponent, .parameter,
    .keyword .and, .name "c", .comparison m.limbs, .parameter, .keyword .and, .name "idx",
    .comparison m.slot, .parameter, .closing]

theorem cutsWhole_search (m : ArgMatch) : CutsWhole m.condition.text (searchTokens m) := by
  have subject : CutsWhole "id IN (SELECT log_id FROM tx_log_args WHERE e "
      [.name "id", .keyword .among, .opening, .keyword .select, .name "log_id", .keyword .source,
        .name "tx_log_args", .keyword .whenever, .name "e"] := by rfl
  have limbs : CutsWhole " ? AND c " [.parameter, .keyword .and, .name "c"] := by rfl
  have slot : CutsWhole " ? AND idx " [.parameter, .keyword .and, .name "idx"] := by rfl
  have ending : CutsWhole " ?)" [.parameter, .closing] := by rfl
  exact (((((subject.append_whole (cutsWhole_sign m.exponent)).append_whole limbs).append_whole
    (cutsWhole_sign m.limbs)).append_whole slot).append_whole (cutsWhole_sign m.slot)).append_whole
    ending

/-- **The search for an argument** looks for the identity of the line among those of the lines of the
other table that are what is searched for. -/
theorem operand_arg (m : ArgMatch) :
    Operand tables m.condition fun line => tables.holds line (.arg m) := by
  refine ⟨searchTokens m, (cutsWhole_search m).cuts, fun d c n outer k => ?_⟩
  let sought : Expr := .and (.and (.compare m.exponent (.column "e") (.parameter k))
    (.compare m.limbs (.column "c") (.parameter (k + 1))))
    (.compare m.slot (.column "idx") (.parameter (k + 2)))
  refine ⟨0, .among (.column "id") "log_id" "tx_log_args" sought, rfl, fun bound bounds => ?_⟩
  have first : bound[k]? = some (.integer (exponentColumn m.arg.exponent).toInt) :=
    bounds.getElem? (Nat.succ_pos 2)
  have second : bound[k + 1]? = some (.text (limbsText m.arg.limbs)) :=
    bounds.getElem? (Nat.le_succ 2)
  have third : bound[k + 2]? = some (.integer m.arg.slot.toInt64.toInt) :=
    bounds.getElem? (Nat.lt_succ_self 2)
  suffices inner : ∀ line : LogLine, Means tables.database bound sought
      (fun a : ArgLine => [a.cells, line.cells]) (LogTables.lineAccepts m) from
    Means.among (fun _ => rfl) rfl inner fun _ => rfl
  intro line
  -- Inside, a column without a table is one of the line of an argument, which comes first.
  let lines (a : ArgLine) : List Sql.Row := [a.cells, line.cells]
  have exponents : Means tables.database bound (.compare m.exponent (.column "e") (.parameter k))
      lines fun a => m.exponent.test a.exponent (exponentColumn m.arg.exponent) :=
    Means.compare (fun _ => rfl) (fun _ => first) fun _ => compared_integer _ _ _
  have limbs : Means tables.database bound (.compare m.limbs (.column "c") (.parameter (k + 1)))
      lines fun a => m.limbs.test a.limbs (limbsText m.arg.limbs) :=
    Means.compare (fun _ => rfl) (fun _ => second) fun _ => rfl
  have slots : Means tables.database bound (.compare m.slot (.column "idx") (.parameter (k + 2)))
      lines fun a => m.slot.test a.slot m.arg.slot.toInt64 :=
    Means.compare (fun _ => rfl) (fun _ => third) fun _ => compared_integer _ _ _
  exact (exponents.and limbs).and slots

/-! ## Series -/

namespace Joint

/-- The word for it. -/
def keyword : Joint → Keyword
  | and => .and
  | or => .or

/-- How the parts are kept apart. -/
def separator : Joint → String
  | and => " AND "
  | or => " OR "

/-- The expression of two parts. -/
def expr : Joint → Expr → Expr → Expr
  | and => .and
  | or => .or

/-- What it makes of two truth values. -/
def join : Joint → Bool → Bool → Bool
  | and, a, b => a && b
  | or, a, b => a || b

/-- The clause in which some parts in front have been joined and the next one is being read. -/
def clause : Joint → (front : Option Expr) → (negations : Nat) → (part : Option Expr) → Clause
  | and, front, n, part => ⟨none, front, n, none, part⟩
  | or, front, n, part => ⟨front, none, n, none, part⟩

theorem cutsWhole_separator (j : Joint) : CutsWhole j.separator [.keyword j.keyword] := by
  cases j <;> rfl

theorem startsWithSign_separator (j : Joint) : StartsWithSign j.separator := by
  cases j <;> exact ⟨' ', rfl, rfl⟩

theorem disjoined_clause (j : Joint) (front : Option Expr) (n : Nat) (e : Expr) :
    (j.clause front n (some e)).disjoined = some (Clause.after j.expr front (Clause.negated e n)) := by
  cases j <;> rfl

theorem step_keyword (j : Joint) (front : Option Expr) (n : Nat) (e : Expr)
    (outer : List (Clause × Closing)) (k : Nat) :
    Reader.step ⟨j.clause front n (some e), outer, none, k⟩ (.keyword j.keyword) =
      some ⟨j.clause (some (Clause.after j.expr front (Clause.negated e n))) 0 none, outer, none, k⟩ := by
  cases j <;> rfl

theorem means_expr {db : Database} {bound : List Value} {lines : α → List Sql.Row} {l r : Expr}
    {first second : α → Bool} (j : Joint) (hl : Means db bound l lines first)
    (hr : Means db bound r lines second) :
    Means db bound (j.expr l r) lines fun a => j.join (first a) (second a) := by
  cases j with
  | and => exact hl.and hr
  | or => exact hl.or hr

end Joint

/-- **A piece is a series that means a property of lines:** read from its beginning, it makes up some
joined parts and a last one. -/
def Series (tables : LogTables) (j : Joint) (piece : Fragment) (has : LogLine → Bool) : Prop :=
  ∃ ts, Cuts piece.text ts ∧ ∀ outer k, ∃ front n e,
    Reader.run ⟨.empty, outer, none, k⟩ ts =
        some ⟨j.clause front n (some e), outer, none, k + piece.bound.length⟩ ∧
      ∀ bound, BoundAt bound k piece.bound →
        Means tables.database bound (Clause.after j.expr front (Clause.negated e n))
          (fun line => [line.cells]) has

/-- An operand behind some joined parts is the next part. -/
theorem Operand.next {piece : Fragment} {has : LogLine → Bool} (h : Operand tables piece has)
    (j : Joint) : ∃ ts, Cuts piece.text ts ∧ ∀ front outer k, ∃ n e,
      Reader.run ⟨j.clause front 0 none, outer, none, k⟩ ts =
          some ⟨j.clause front n (some e), outer, none, k + piece.bound.length⟩ ∧
        ∀ bound, BoundAt bound k piece.bound →
          Means tables.database bound (Clause.negated e n) (fun line => [line.cells]) has := by
  obtain ⟨ts, cut, reads⟩ := h
  refine ⟨ts, cut, fun front outer k => ?_⟩
  cases j with
  | and =>
    obtain ⟨n, e, run, means⟩ := reads none front 0 outer k
    rw [Nat.zero_add] at run
    exact ⟨n, e, run, means⟩
  | or =>
    obtain ⟨n, e, run, means⟩ := reads front none 0 outer k
    rw [Nat.zero_add] at run
    exact ⟨n, e, run, means⟩

/-- An operand alone is a series. -/
theorem Operand.series {piece : Fragment} {has : LogLine → Bool} (h : Operand tables piece has)
    (j : Joint) : Series tables j piece has := by
  obtain ⟨ts, cut, reads⟩ := h.next j
  refine ⟨ts, cut, fun outer k => ?_⟩
  obtain ⟨n, e, run, means⟩ := reads none outer k
  have start : j.clause none 0 none = .empty := by cases j <;> rfl
  rw [start] at run
  exact ⟨none, n, e, run, means⟩

/-- **A series with an operand more** is a series. -/
theorem Series.append {j : Joint} {piece next : Fragment} {has alsoHas : LogLine → Bool}
    (h : Series tables j piece has) (hn : Operand tables next alsoHas) :
    Series tables j (piece ++ .plain j.separator ++ next)
      fun line => j.join (has line) (alsoHas line) := by
  obtain ⟨ts, cut, reads⟩ := h
  obtain ⟨us, cutNext, readsNext⟩ := hn.next j
  refine ⟨ts ++ [.keyword j.keyword] ++ us, ?_, fun outer k => ?_⟩
  · exact (cut.append_whole j.startsWithSign_separator j.cutsWhole_separator).append cutNext
  · obtain ⟨front, n, e, run, means⟩ := reads outer k
    -- The connective joins what has been read so far, and the operand is the next part.
    obtain ⟨m, f, runNext, meansNext⟩ :=
      readsNext (some (Clause.after j.expr front (Clause.negated e n))) outer
        (k + piece.bound.length)
    refine ⟨some (Clause.after j.expr front (Clause.negated e n)), m, f, ?_, fun bound bounds => ?_⟩
    · have places : (piece ++ Fragment.plain j.separator ++ next).bound.length =
          piece.bound.length + next.bound.length := by simp [Fragment.plain]
      rw [places, ← Nat.add_assoc]
      exact Reader.run_trans (Reader.run_trans run (Reader.run_single (j.step_keyword ..))) runNext
    · have parts : BoundAt bound k (piece.bound ++ next.bound) := by
        simpa [Fragment.plain] using bounds
      exact j.means_expr (means bound parts.left) (meansNext bound parts.right)

/-- **A series in brackets** is an operand. -/
theorem Series.operand {j : Joint} {piece : Fragment} {has : LogLine → Bool}
    (h : Series tables j piece has) :
    Operand tables (.plain "(" ++ piece ++ .plain ")") has := by
  obtain ⟨ts, cut, reads⟩ := h
  have opening : CutsWhole "(" [.opening] := by rfl
  have closing : CutsWhole ")" [.closing] := by rfl
  refine ⟨[.opening] ++ ts ++ [.closing], ?_, fun d c n outer k => ?_⟩
  · exact (opening.append cut).append ⟨')', rfl, rfl⟩ closing.cuts
  · obtain ⟨front, m, e, run, means⟩ := reads ((⟨d, c, n, none, none⟩, .group) :: outer) k
    refine ⟨0, Clause.after j.expr front (Clause.negated e m), ?_, fun bound bounds => ?_⟩
    · refine Reader.run_trans (Reader.run_trans rfl run) (Reader.run_single ?_)
      simp [Reader.step, Reader.stepCondition, Reader.close, j.disjoined_clause, Reader.within, Clause.give, Fragment.plain]
    · exact means bound (by simpa [Fragment.plain] using bounds)

/-! ## Predicates -/

/-- A condition behind `NOT`, in brackets. -/
theorem Operand.not {piece : Fragment} {has : LogLine → Bool} (h : Operand tables piece has) :
    Operand tables (.plain "NOT (" ++ piece ++ .plain ")") fun line => !has line := by
  obtain ⟨ts, cut, reads⟩ := h
  have opening : CutsWhole "NOT (" [.keyword .not, .opening] := by rfl
  have closing : CutsWhole ")" [.closing] := by rfl
  refine ⟨[.keyword .not, .opening] ++ ts ++ [.closing], ?_, fun d c n outer k => ?_⟩
  · exact (opening.append cut).append ⟨')', rfl, rfl⟩ closing.cuts
  · obtain ⟨m, e, run, means⟩ := reads none none 0 ((⟨d, c, n + 1, none, none⟩, .group) :: outer) k
    rw [Nat.zero_add] at run
    refine ⟨1, Clause.negated e m, ?_, fun bound bounds => ?_⟩
    · refine Reader.run_trans (Reader.run_trans rfl run) (Reader.run_single ?_)
      simp [Reader.step, Reader.stepCondition, Reader.close, Clause.disjoined, Clause.conjoined, Clause.after, Reader.within, Clause.give,
        Fragment.plain]
    · exact (means bound (by simpa [Fragment.plain] using bounds)).not

/-- **Operands joined one after the other** are a series. -/
theorem series_joined {j : Joint} {first : Fragment} {has : LogLine → Bool} {ps : List Predicate}
    (h : Series tables j first has)
    (hs : ∀ p ∈ ps, Operand tables p.condition fun line => tables.holds line p) :
    Series tables j (Fragment.joined j.separator first (Predicate.conditions ps))
      fun line => ps.foldl (fun b p => j.join b (tables.holds line p)) (has line) := by
  induction ps generalizing first has with
  | nil => exact h
  | cons p ps ih =>
    have here : Operand tables p.condition fun line => tables.holds line p :=
      hs p List.mem_cons_self
    exact ih (h.append here) fun q hq => hs q (List.mem_cons_of_mem p hq)

theorem foldl_and (line : LogLine) (ps : List Predicate) (b : Bool) :
    ps.foldl (fun b p => b && tables.holds line p) b = (b && tables.allHold line ps) := by
  induction ps generalizing b with
  | nil => simp [LogTables.allHold]
  | cons p ps ih => rw [List.foldl_cons, ih, LogTables.allHold, Bool.and_assoc]

theorem foldl_or (line : LogLine) (ps : List Predicate) (b : Bool) :
    ps.foldl (fun b p => b || tables.holds line p) b = (b || tables.anyHolds line ps) := by
  induction ps generalizing b with
  | nil => simp [LogTables.anyHolds]
  | cons p ps ih => rw [List.foldl_cons, ih, LogTables.anyHolds, Bool.or_assoc]

mutual

/-- **The condition of a predicate means the predicate,** by induction on the predicate. -/
theorem operand_condition :
    ∀ p : Predicate, Operand tables p.condition fun line => tables.holds line p
  | .all [] => operand_one
  | .all (p :: ps) => by
    have series := series_joined ((operand_condition p).series .and) (operand_conditions ps)
    simp only [Joint.join, foldl_and] at series
    exact series.operand
  | .any [] => operand_zero
  | .any (p :: ps) => by
    have series := series_joined ((operand_condition p).series .or) (operand_conditions ps)
    simp only [Joint.join, foldl_or] at series
    exact series.operand
  | .not inner => (operand_condition inner).not
  | .arg search => operand_arg search
  | .field f value => operand_field f (lower value)
termination_by structural p => p

theorem operand_conditions : ∀ ps : List Predicate,
    ∀ p ∈ ps, Operand tables p.condition fun line => tables.holds line p
  | [] => List.forall_mem_nil _
  | p :: ps => List.forall_mem_cons.mpr ⟨operand_condition p, operand_conditions ps⟩
termination_by structural ps => ps

end

end TransferLedger
