/-
# TransferLedger.Proofs.Account.LastWins -- a refresh is a merge in which the last one wins

A refresh may name a token several times, in any letter case and with any balance. The one that stands
last decides: it goes to the end of the list, or the token has no entry any more if it is zero there.
The tokens that the refresh does not name keep their entries in their order. So the entries differ in
their tokens as soon as those that were kept do, and the same refresh a second time changes nothing.
-/

import TransferLedger.Proofs.Account.Merge

namespace TransferLedger

open TransferLedger.Text TransferLedger.Number

/-! ## Zero balances -/

theorem decimalValue?_eq_zero_iff {c : Char} : decimalValue? c = some 0 ↔ c = '0' := by
  constructor
  · intro h
    unfold decimalValue? at h
    split at h
    case isTrue digit =>
      have least : '0'.toNat ≤ c.toNat := digit.1
      have value : c.toNat - '0'.toNat = 0 := Option.some.inj h
      exact Char.toNat_inj.mp (by omega)
    case isFalse => cases h
  · rintro rfl
    rfl

/-- Digits denote zero when all of them are zero, and so do none. -/
theorem decimalNat?_eq_zero_iff {cs : List Char} :
    decimalNat? cs = some 0 ↔ ∀ c ∈ cs, c = '0' := by
  suffices go : ∀ n, cs.foldlM (fun n c => (decimalValue? c).map (10 * n + ·)) n = some 0 ↔
      n = 0 ∧ ∀ c ∈ cs, c = '0' by
    exact (go 0).trans (and_iff_right rfl)
  induction cs with
  | nil => simp
  | cons c cs ih =>
    intro n
    rw [List.foldlM_cons, List.forall_mem_cons, ← decimalValue?_eq_zero_iff]
    cases value : decimalValue? c with
    | none => simp
    | some d =>
      show cs.foldlM _ (10 * n + d) = some 0 ↔ _
      have parts : 10 * n + d = 0 ↔ n = 0 ∧ d = 0 := by omega
      rw [ih, parts, and_assoc, Option.some.injEq]

/-- **A balance is zero** when it is written with zeros only, or not at all. -/
theorem TokenBalance.isZero_iff {t : TokenBalance} :
    t.isZero = true ↔ ∀ c ∈ t.balance.toList, c = '0' := by
  have small : ∀ n, Word.ofNat? n = some 0 ↔ n = 0 := by
    intro n
    constructor
    · intro h
      exact (Word.toNat_of_ofNat? h).symm
    · rintro rfl
      exact Word.ofNat?_toNat 0
  rw [TokenBalance.isZero, beq_iff_eq, Word.ofDecimal?, Option.bind_eq_some_iff,
    ← decimalNat?_eq_zero_iff]
  simp only [small, exists_eq_right]

namespace Account

open TokenBalance

/-! ## What stays and what comes -/

/-- The held tokens that a refresh does not name, in their order. -/
def untouched (held fresh : List TokenBalance) : List TokenBalance :=
  held.filter fun h => !fresh.any h.sameToken

/-- The last balance of each refreshed token, in the order of these. -/
def lastBalances (fresh : List TokenBalance) : List TokenBalance :=
  lastOfEach (fun t => lower t.address) fresh

/-- No two of some entries are of one token. -/
def Apart (tokens : List TokenBalance) : Prop := tokens.Pairwise fun s t => s.sameToken t = false

theorem merge_eq (account : Account) (fresh : Balances) (now : Int64) :
    account.merge fresh now =
      { account with
        balance := fresh.balance
        tokens := untouched account.tokens fresh.tokens ++
          (lastBalances fresh.tokens).filter (!·.isZero)
        updatedAt := some now } := by
  rw [merge, foldl_refreshToken, lasting_eq]
  rfl

theorem apart_lastBalances (fresh : List TokenBalance) : Apart (lastBalances fresh) :=
  (pairwise_lastOfEach _ fresh).imp fun ne => by simpa [sameToken, sameIgnoringCase] using ne

/-- **Two entries of one token** can only be two that the refresh does not name. -/
theorem apart_merge_iff (account : Account) (fresh : Balances) (now : Int64) :
    Apart (account.merge fresh now).tokens ↔ Apart (untouched account.tokens fresh.tokens) := by
  rw [merge_eq, Apart, List.pairwise_append]
  refine and_iff_left ⟨(apart_lastBalances fresh.tokens).filter _, fun s hs t ht => ?_⟩
  have named : t ∈ fresh.tokens :=
    (sublist_lastOfEach _ fresh.tokens).subset (List.mem_of_mem_filter ht)
  have unnamed : fresh.tokens.any s.sameToken = false := by
    simpa [untouched] using (List.mem_filter.mp hs).2
  simpa using List.any_eq_false.mp unnamed t named

/-- **The same refresh again** changes nothing but the time. -/
theorem merge_merge (account : Account) (fresh : Balances) (now later : Int64) :
    (account.merge fresh now).merge fresh later = account.merge fresh later := by
  have tokens : fresh.tokens.foldl refreshToken (fresh.tokens.foldl refreshToken account.tokens) =
      fresh.tokens.foldl refreshToken account.tokens := by
    rw [← List.foldl_append, foldl_refreshToken, foldl_refreshToken, lasting_eq, lasting_eq,
      lastOfEach_append_self]
    simp only [List.any_append, Bool.or_self]
  rw [merge, merge, tokens]
  rfl

/-! ## Two refreshes -/

/-- **Two accounts hold the same:** one balance and the same entries, in whatever order. -/
structure SameHoldings (a b : Account) : Prop where
  address : a.address = b.address
  balance : a.balance = b.balance
  tokens : a.tokens.Perm b.tokens
  isActive : a.isActive = b.isActive

/-- **Two refreshes** may change places where they bring one native balance and a token's address tells
its balance. -/
theorem sameHoldings_merge {first second : Balances} (balance : first.balance = second.balance)
    (one : ∀ a ∈ first.tokens ++ second.tokens, ∀ b ∈ first.tokens ++ second.tokens,
      lower a.address = lower b.address → a = b) (account : Account) (t₁ t₂ t₃ t₄ : Int64) :
    ((account.merge first t₁).merge second t₂).SameHoldings
      ((account.merge second t₃).merge first t₄) where
  address := rfl
  balance := balance.symm
  isActive := rfl
  tokens := by
    show (second.tokens.foldl refreshToken (first.tokens.foldl refreshToken account.tokens)).Perm
      (first.tokens.foldl refreshToken (second.tokens.foldl refreshToken account.tokens))
    have others : untouched account.tokens (first.tokens ++ second.tokens) =
        untouched account.tokens (second.tokens ++ first.tokens) := by
      simp only [untouched, List.any_append, Bool.or_comm]
    rw [← List.foldl_append, ← List.foldl_append, foldl_refreshToken, foldl_refreshToken, lasting_eq,
      lasting_eq, ← untouched, ← untouched, others]
    exact ((perm_lastOfEach one).filter _).append_left _

/-! ## The main theorem -/

/-- **A refresh is a merge in which the last one wins,** whatever the account holds and whatever the
refresh names. -/
theorem merge_last_wins (account : Account) (fresh : Balances) (now later : Int64) :
    account.merge fresh now =
        { account with
          balance := fresh.balance
          tokens := untouched account.tokens fresh.tokens ++
            (lastBalances fresh.tokens).filter (!·.isZero)
          updatedAt := some now } ∧
      (∀ t : TokenBalance, t.isZero = true ↔ ∀ c ∈ t.balance.toList, c = '0') ∧
      (Apart (account.merge fresh now).tokens ↔ Apart (untouched account.tokens fresh.tokens)) ∧
      (account.merge fresh now).merge fresh later =
        { account.merge fresh now with updatedAt := some later } :=
  ⟨merge_eq account fresh now, fun _ => isZero_iff, apart_merge_iff account fresh now,
    merge_merge account fresh now later⟩

end Account

end TransferLedger
