/-
# TransferLedger.Proofs.Sql.Cutting -- the tokens of a text made of pieces

The lexer never looks at the tokens it has, so a piece is cut the same way wherever it stands, as
long as no word runs over its ends. That is so when the piece in front ends in a sign, or when the
piece behind starts with one.
-/

import Mathlib.Tactic.SplitIfs
import TransferLedger.Sql.Reading

namespace TransferLedger.Sql

namespace Lexer

/-! ## The tokens in front -/

/-- The lexer with some tokens in front of its own. -/
def behind (l : Lexer) (front : List Token) : Lexer := { l with tokens := l.tokens ++ front }

theorem clean_behind (ts front : List Token) : (clean ts).behind front = clean (ts ++ front) := rfl

theorem flush_behind (l : Lexer) (front : List Token) :
    (l.behind front).flush = l.flush.behind front := by
  obtain ⟨word, less, tokens⟩ := l
  cases word <;> rfl

theorem step_behind (l : Lexer) (front : List Token) (c : Char) :
    (l.behind front).step c = (l.step c).map (·.behind front) := by
  have less : (l.behind front).less = l.less := rfl
  unfold step
  rw [less, flush_behind]
  split_ifs
  · rfl
  · rfl
  · rfl
  · rfl
  · rfl
  · cases signs.lookup c <;> rfl

theorem run_behind (l : Lexer) (front : List Token) (cs : List Char) :
    (l.behind front).run cs = (l.run cs).map (·.behind front) := by
  induction cs generalizing l with
  | nil => rfl
  | cons c cs ih =>
    simp only [run, List.foldlM_cons, step_behind] at ih ⊢
    cases l.step c with
    | none => rfl
    | some next => exact ih next

theorem run_append (l : Lexer) (as bs : List Char) :
    l.run (as ++ bs) = (l.run as).bind (·.run bs) :=
  List.foldlM_append

/-! ## The word at the end -/

theorem less_flush (l : Lexer) : l.flush.less = l.less := by
  obtain ⟨word, less, tokens⟩ := l
  cases word <;> rfl

theorem flush_flush (l : Lexer) : l.flush.flush = l.flush := by
  obtain ⟨word, less, tokens⟩ := l
  cases word <;> rfl

/-- **A sign ends the word in front of it.** -/
theorem step_flush {l : Lexer} (waits : l.less = false) {c : Char} (sign : isNameChar c = false) :
    l.flush.step c = l.step c := by
  simp [step, less_flush, waits, sign, flush_flush]

end Lexer

/-! ## Pieces -/

/-- **A text is cut into these tokens,** the last of which may still be a word that goes on. -/
def Cuts (text : String) (ts : List Token) : Prop :=
  ∃ l, (Lexer.clean []).run text.toList = some l ∧ l.flush = Lexer.clean ts.reverse

/-- A text is cut into these tokens and does not end in a word. -/
def CutsWhole (text : String) (ts : List Token) : Prop :=
  (Lexer.clean []).run text.toList = some (Lexer.clean ts.reverse)

/-- A text starts with a sign. -/
def StartsWithSign (text : String) : Prop := ∃ c ∈ text.toList.head?, isNameChar c = false

theorem CutsWhole.cuts {text : String} {ts : List Token} (h : CutsWhole text ts) : Cuts text ts :=
  ⟨_, h, rfl⟩

theorem Cuts.tokens? {text : String} {ts : List Token} (h : Cuts text ts) :
    tokens? text = some ts := by
  obtain ⟨l, run, flushed⟩ := h
  have less : l.less = false := by
    rw [← l.less_flush, flushed]
    rfl
  rw [Sql.tokens?, run]
  simp [less, flushed, Lexer.clean]

theorem run_clean {text : String} {l : Lexer} (h : (Lexer.clean []).run text.toList = some l)
    (front : List Token) : (Lexer.clean front).run text.toList = some (l.behind front) := by
  have clean : Lexer.clean front = (Lexer.clean []).behind front := rfl
  rw [clean, Lexer.run_behind, h]
  rfl

/-- A piece after one that does not end in a word. -/
theorem CutsWhole.append {a b : String} {s t : List Token} (ha : CutsWhole a s) (hb : Cuts b t) :
    Cuts (a ++ b) (s ++ t) := by
  obtain ⟨l, run, flushed⟩ := hb
  refine ⟨l.behind s.reverse, ?_, ?_⟩
  · rw [String.toList_append, Lexer.run_append, ha]
    exact run_clean run s.reverse
  · rw [Lexer.flush_behind, flushed, Lexer.clean_behind, List.reverse_append]

/-- The same, for a piece that does not end in a word either. -/
theorem CutsWhole.append_whole {a b : String} {s t : List Token} (ha : CutsWhole a s)
    (hb : CutsWhole b t) : CutsWhole (a ++ b) (s ++ t) := by
  rw [CutsWhole, String.toList_append, Lexer.run_append, ha, List.reverse_append]
  exact run_clean hb s.reverse

theorem Cuts.run_append {a b : String} {s : List Token} {l : Lexer} (ha : Cuts a s)
    (starts : StartsWithSign b) (hb : (Lexer.clean []).run b.toList = some l) :
    (Lexer.clean []).run (a ++ b).toList = some (l.behind s.reverse) := by
  obtain ⟨k, run, flushed⟩ := ha
  obtain ⟨c, first, sign⟩ := starts
  obtain ⟨rest, hrest⟩ := List.head?_eq_some_iff.mp first
  have waits : k.less = false := by
    rw [← k.less_flush, flushed]
    rfl
  -- The sign ends the word that the first text may end in, so what follows starts clean.
  have step : k.step c = (Lexer.clean s.reverse).step c := by
    rw [← Lexer.step_flush waits sign, flushed]
  have same : k.run b.toList = (Lexer.clean s.reverse).run b.toList := by
    rw [hrest]
    simp only [Lexer.run, List.foldlM_cons, step]
  rw [String.toList_append, Lexer.run_append, run]
  show k.run b.toList = _
  rw [same]
  exact run_clean hb s.reverse

/-- A piece that starts with a sign, after any other. -/
theorem Cuts.append {a b : String} {s t : List Token} (ha : Cuts a s) (starts : StartsWithSign b)
    (hb : Cuts b t) : Cuts (a ++ b) (s ++ t) := by
  obtain ⟨l, run, flushed⟩ := hb
  refine ⟨l.behind s.reverse, ha.run_append starts run, ?_⟩
  rw [Lexer.flush_behind, flushed, Lexer.clean_behind, List.reverse_append]

/-- The same, for a piece that does not end in a word either. -/
theorem Cuts.append_whole {a b : String} {s t : List Token} (ha : Cuts a s)
    (starts : StartsWithSign b) (hb : CutsWhole b t) : CutsWhole (a ++ b) (s ++ t) := by
  rw [CutsWhole, ha.run_append starts hb, Lexer.clean_behind, List.reverse_append]

/-! ## Reading tokens in steps -/

theorem Reader.run_trans {s t u : Reader} {ts us : List Token} (first : s.run ts = some t)
    (second : t.run us = some u) : s.run (ts ++ us) = some u := by
  have split : s.run (ts ++ us) = (s.run ts).bind (·.run us) := List.foldlM_append
  rw [split, first]
  exact second

theorem Reader.run_single {s t : Reader} {token : Token} (h : s.step token = some t) :
    s.run [token] = some t := by
  show (s.step token).bind _ = _
  rw [h]
  rfl

/-- A condition holds no word that gives an order. -/
theorem Reader.order_notMem_of_run {s t : Reader} {ts : List Token} (h : s.run ts = some t) :
    .keyword .order ∉ ts := by
  induction ts generalizing s with
  | nil => exact List.not_mem_nil
  | cons u us ih =>
    simp only [Reader.run, List.foldlM_cons] at h ih
    obtain ⟨next, step, rest⟩ := Option.bind_eq_some_iff.mp h
    rintro (_ | ⟨_, later⟩)
    · -- No state of the reader takes the word.
      obtain ⟨clause, outer, head, parameters⟩ := s
      rcases head with _ | ⟨subject, _ | _ | _ | _ | _ | _⟩ <;> cases step
    · exact ih rest later

end TransferLedger.Sql
