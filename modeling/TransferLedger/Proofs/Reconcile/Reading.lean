/-
# TransferLedger.Proofs.Reconcile.Reading -- what a refresh has read when it succeeds

An inquiry that ends with an answer got an answer to each of its parts. So a refresh that succeeds
has read a balance of every token, in the order of the tokens, and the native balance after them.
-/

import Mathlib.Data.List.Forall2
import TransferLedger.Proofs.Fallible
import TransferLedger.Proofs.Number.Decimal
import TransferLedger.Reconcile.Refresh

namespace TransferLedger

open TransferLedger.Text TransferLedger.Fallible

/-! ## Parts of an inquiry -/

theorem Inquiry.answer_bind {x : Inquiry α} {f : α → Inquiry β} {b : β} :
    (x >>= f).answer = .ok b ↔ ∃ a, x.answer = .ok a ∧ (f a).answer = .ok b := by
  cases h : x.answer with
  | error e => simp [Inquiry.bind_of_error h]
  | ok a => simp [Inquiry.bind_of_ok h]

theorem Inquiry.answer_pure {a b : α} : (pure a : Inquiry α).answer = .ok b ↔ a = b :=
  ⟨Except.ok.inj, congrArg Except.ok⟩

variable {chain : Chain} {owner : String}

/-! ## Balances -/

/-- A token balance is zero exactly when the word that it writes is. -/
theorem isZero_of_toDecimal {t : TokenBalance} {v : Word} (h : t.balance = v.toDecimal) :
    t.isZero = decide (v = 0) := by
  have back : Word.ofDecimal? t.balance = some v := by
    rw [h, Word.ofDecimal?, Word.toDecimal, Number.decimalText, String.toList_ofList,
      Number.decimalNat?_decimal, Option.bind_some, Word.ofNat?_toNat]
  rw [TokenBalance.isZero, back, Bool.eq_iff_iff, beq_iff_eq, decide_eq_true_iff, Option.some.injEq]

/-- **A token that was read** has the balance that it tells for the owner. -/
theorem readToken_eq_ok {token : String} {b : TokenBalance}
    (h : (readToken chain owner token).answer = .ok b) :
    b.address = lower token ∧
      ∃ v, (chain.tokenBalance token owner).answer = .ok v ∧ b.balance = v.toDecimal := by
  obtain ⟨v, balance, h⟩ := Inquiry.answer_bind.mp h
  obtain ⟨symbol, -, h⟩ := Inquiry.answer_bind.mp h
  obtain ⟨decimals, -, h⟩ := Inquiry.answer_bind.mp h
  obtain rfl := Inquiry.answer_pure.mp h
  exact ⟨rfl, v, balance, rfl⟩

/-- **Every token was read,** in the order of the tokens. -/
theorem readTokens_eq_ok {tokens : List String} {bs : List TokenBalance}
    (h : (readTokens chain owner tokens).answer = .ok bs) :
    List.Forall₂ (fun token b => (readToken chain owner token).answer = .ok b) tokens bs := by
  induction tokens generalizing bs with
  | nil =>
    obtain rfl := Inquiry.answer_pure.mp h
    exact .nil
  | cons token tokens ih =>
    obtain ⟨b, first, h⟩ := Inquiry.answer_bind.mp h
    obtain ⟨rest, others, h⟩ := Inquiry.answer_bind.mp h
    obtain rfl := Inquiry.answer_pure.mp h
    exact .cons first (ih others)

/-- **A refresh that succeeds** has read every token in question and then the native balance. -/
theorem readBalances_eq_ok {c : FilterCompiler} {faults : Faults} {w : World} {address : String}
    {transaction : Option Transaction} {fresh : Balances}
    (h : (readBalances c chain faults w address transaction).answer = .ok fresh) :
    ∃ tokens native, (∀ t, transaction = some t → tokens = t.tokens) ∧
      (transaction = none → knownTokens c faults w address = .ok tokens) ∧
      List.Forall₂ (fun token b => (readToken chain address token).answer = .ok b) tokens
        fresh.tokens ∧
      chain.balance address = .ok native ∧ fresh.balance = native.toDecimal := by
  obtain ⟨tokens, scope, h⟩ := Inquiry.answer_bind.mp h
  obtain ⟨balances, read, h⟩ := Inquiry.answer_bind.mp h
  obtain ⟨native, asked, h⟩ := Inquiry.answer_bind.mp h
  obtain rfl := Inquiry.answer_pure.mp h
  refine ⟨tokens, native, ?_, ?_, readTokens_eq_ok read, ?_, rfl⟩
  · rintro t rfl
    exact (Except.ok.inj scope).symm
  · rintro rfl
    exact scope
  · exact mapError_eq_ok.mp (mapError_eq_ok.mp asked)

/-- Every token that a refresh brings was read from some contract. -/
theorem exists_token_of_mem {tokens : List String} {bs : List TokenBalance}
    (read : List.Forall₂ (fun token b => (readToken chain owner token).answer = .ok b) tokens bs)
    {b : TokenBalance} (hb : b ∈ bs) : ∃ token, (readToken chain owner token).answer = .ok b := by
  induction read with
  | nil => exact absurd hb List.not_mem_nil
  | cons first _ ih =>
    rcases List.mem_cons.mp hb with rfl | later
    · exact ⟨_, first⟩
    · exact ih later

/-! ## A chain that answers by address -/

/-- **A chain that answers by address,** whatever the letter case in which it is asked. -/
structure Chain.ByAddress (chain : Chain) : Prop where
  balance : ∀ a b, lower a = lower b → chain.balance a = chain.balance b
  call : ∀ a b, lower a = lower b → chain.call a = chain.call b

theorem Inquiry.toOption_bind (x : Inquiry α) (f : α → Inquiry β) :
    (x >>= f).answer.toOption = x.answer.toOption.bind fun a => (f a).answer.toOption := by
  cases h : x.answer with
  | error e => rw [Inquiry.bind_of_error h]; rfl
  | ok a => rw [Inquiry.bind_of_ok h]; rfl

theorem Inquiry.toOption_within (context : String) (x : Inquiry α) :
    (x.within context).answer.toOption = x.answer.toOption := by
  rw [Inquiry.within]
  cases x.answer <;> rfl

namespace Chain.ByAddress

variable {x y : String}

/-- Only the wording of a failure depends on the letter case. -/
theorem askToken (h : chain.ByAddress) (same : lower x = lower y) (call : TokenCall) :
    (chain.askToken x call).answer.toOption = (chain.askToken y call).answer.toOption := by
  have asked : (chain.askCall x call.data).answer.toOption =
      (chain.askCall y call.data).answer.toOption := by
    rw [askCall, askCall, h.call x y same]
  rw [Chain.askToken, Chain.askToken, Inquiry.toOption_bind, Inquiry.toOption_bind,
    Inquiry.toOption_within, Inquiry.toOption_within, asked]
  refine congrArg (Option.bind _) (funext fun result => ?_)
  cases hexBytes? result <;> rfl

theorem tokenBalance (h : chain.ByAddress) (same : lower x = lower y) (owner : String) :
    (chain.tokenBalance x owner).answer.toOption = (chain.tokenBalance y owner).answer.toOption := by
  unfold Chain.tokenBalance
  cases owner? owner with
  | none => rfl
  | some bytes =>
    simp only [Inquiry.toOption_bind, h.askToken same]
    refine congrArg (Option.bind _) (funext fun result => ?_)
    cases returnedNumber? result <;> rfl

theorem tokenSymbol (h : chain.ByAddress) (same : lower x = lower y) :
    (chain.tokenSymbol x).answer.toOption = (chain.tokenSymbol y).answer.toOption := by
  simp only [Chain.tokenSymbol, Inquiry.toOption_bind, Inquiry.toOption_within, h.askToken same]

theorem tokenDecimals (h : chain.ByAddress) (same : lower x = lower y) :
    (chain.tokenDecimals x).answer.toOption = (chain.tokenDecimals y).answer.toOption := by
  simp only [Chain.tokenDecimals, h.askToken same]

/-- **A token is read alike** in whatever letter case it is named. -/
theorem readToken (h : chain.ByAddress) (same : lower x = lower y) (owner : String) :
    (readToken chain owner x).answer.toOption = (readToken chain owner y).answer.toOption := by
  simp only [TransferLedger.readToken, Inquiry.toOption_bind, h.tokenBalance same owner,
    h.tokenSymbol same, h.tokenDecimals same, same]

/-- **What is read of a token** is told by its address. -/
theorem eq_of_readToken (h : chain.ByAddress) {a b : TokenBalance}
    (first : ∃ token, (TransferLedger.readToken chain owner token).answer = .ok a)
    (second : ∃ token, (TransferLedger.readToken chain owner token).answer = .ok b)
    (same : lower a.address = lower b.address) : a = b := by
  obtain ⟨x, read⟩ := first
  obtain ⟨y, read'⟩ := second
  have tokens : lower x = lower y := by
    rw [(readToken_eq_ok read).1, (readToken_eq_ok read').1, lower_lower, lower_lower] at same
    exact same
  have answers := h.readToken tokens owner
  rw [read, read'] at answers
  exact Option.some.inj answers

end Chain.ByAddress

end TransferLedger
