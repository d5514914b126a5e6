/-
# TransferLedger.Proofs.Reconcile.Questions -- the chain is asked nothing twice

A refresh asks each token for a balance, a symbol and decimals, and the chain for the native balance
at the end. The tokens are told apart by their spelling, so that all these questions differ. Hence a
chain may be taken for a table of answers without loss: whichever reads of a delivery succeed and
whichever fail, there is a table that answers so.
-/

import TransferLedger.Proofs.LogStore.Distinct
import TransferLedger.Proofs.Reconcile.Handling
import TransferLedger.Proofs.Reconcile.Reading

namespace TransferLedger

open TransferLedger.Text

/-! ## Questions of an inquiry -/

namespace Inquiry

variable {α β : Type} {l m : List Question}

/-- What one inquiry and then another may ask. -/
theorem asked_bind_sublist {x : Inquiry α} {f : α → Inquiry β} (before : x.asked.Sublist l)
    (after : ∀ a, (f a).asked.Sublist m) : (x >>= f).asked.Sublist (l ++ m) := by
  cases h : x.answer with
  | error e =>
    rw [bind_of_error h]
    exact before.trans (List.sublist_append_left l m)
  | ok a =>
    rw [bind_of_ok h]
    exact before.append (after a)

/-- An inquiry that is answered has asked all that its parts ask. -/
theorem asked_bind_of_ok {x : Inquiry α} {f : α → Inquiry β} {b : β} (h : (x >>= f).answer = .ok b) :
    ∃ a, x.answer = .ok a ∧ (f a).answer = .ok b ∧ (x >>= f).asked = x.asked ++ (f a).asked := by
  obtain ⟨a, first, second⟩ := answer_bind.mp h
  exact ⟨a, first, second, by rw [bind_of_ok first]⟩

/-- What needs no question adds none to what was asked before it. -/
theorem asked_bind_of_silent {x : Inquiry α} {f : α → Inquiry β} (h : ∀ a, (f a).asked = []) :
    (x >>= f).asked = x.asked := by
  cases first : x.answer with
  | error e => rw [bind_of_error first]
  | ok a => rw [bind_of_ok first, h a, List.append_nil]

end Inquiry

/-! ## Questions to a token -/

variable {chain : Chain} {owner token : String}

/-- All that a refresh may ask a token about an owner of some bytes. -/
def tokenQuestions (owner : List UInt8) (token : String) : List Question :=
  [.call token (TokenCall.balanceOf owner).data, .call token TokenCall.symbol.data,
    .call token TokenCall.decimals.data]

/-- The calls of a token have different data. -/
theorem nodup_tokenQuestions (owner : List UInt8) (token : String) :
    (tokenQuestions owner token).Nodup := by
  -- The selectors differ in the first byte, so the bytes of the owner do not matter.
  have marked : ∀ bytes : String, "0x70a08231" ++ bytes ≠ "0x95d89b41" ∧
      "0x70a08231" ++ bytes ≠ "0x313ce567" := by
    intro bytes
    constructor <;> intro h <;> simpa using congrArg String.toList h
  simp [tokenQuestions, TokenCall.data, TokenCall.selector, marked]

/-- Different tokens are asked different questions. -/
theorem nodup_flatMap_tokenQuestions (owner : List UInt8) {tokens : List String}
    (h : tokens.Nodup) : (tokens.flatMap (tokenQuestions owner)).Nodup := by
  rw [List.nodup_flatMap]
  refine ⟨fun token _ => nodup_tokenQuestions owner token, h.imp fun {s t} apart => ?_⟩
  simp [List.disjoint_left, tokenQuestions, apart]

theorem asked_askToken (chain : Chain) (token : String) (call : TokenCall) :
    (chain.askToken token call).asked = [.call token call.data] := by
  refine Inquiry.asked_bind_of_silent fun result => ?_
  split <;> rfl

/-- The bytes of an owner, or none where it is no address and no token is asked. -/
def ownerBytes (owner : String) : List UInt8 := (owner? owner).getD []

theorem asked_tokenBalance (chain : Chain) (token owner : String) :
    (chain.tokenBalance token owner).asked.Sublist
      [.call token (TokenCall.balanceOf (ownerBytes owner)).data] := by
  unfold Chain.tokenBalance ownerBytes
  split
  case h_1 => exact List.nil_sublist _
  case h_2 bytes h =>
    rw [h, Inquiry.asked_bind_of_silent fun result => by split <;> rfl, asked_askToken]
    exact List.Sublist.refl _

theorem asked_tokenBalance_of_ok {v : Word} (h : (chain.tokenBalance token owner).answer = .ok v) :
    (chain.tokenBalance token owner).asked =
      [.call token (TokenCall.balanceOf (ownerBytes owner)).data] := by
  unfold Chain.tokenBalance ownerBytes at *
  cases bytes : owner? owner with
  | none =>
    rw [bytes] at h
    cases h
  | some bytes =>
    rw [Inquiry.asked_bind_of_silent fun result => by split <;> rfl, asked_askToken]
    rfl

theorem asked_tokenSymbol (chain : Chain) (token : String) :
    (chain.tokenSymbol token).asked = [.call token TokenCall.symbol.data] := by
  rw [Chain.tokenSymbol, Inquiry.asked_bind_of_silent fun result => rfl, asked_askToken]

theorem asked_tokenDecimals (chain : Chain) (token : String) :
    (chain.tokenDecimals token).asked = [.call token TokenCall.decimals.data] :=
  asked_askToken chain token .decimals

theorem asked_readToken (chain : Chain) (owner token : String) :
    (readToken chain owner token).asked.Sublist (tokenQuestions (ownerBytes owner) token) := by
  have symbol : (chain.tokenSymbol token).asked.Sublist [.call token TokenCall.symbol.data] := by
    rw [asked_tokenSymbol]
  refine Inquiry.asked_bind_sublist (asked_tokenBalance chain token owner) fun balance => ?_
  refine Inquiry.asked_bind_sublist symbol fun symbol => ?_
  rw [Inquiry.asked_bind_of_silent fun decimals => rfl, asked_tokenDecimals]

theorem asked_readTokens (chain : Chain) (owner : String) (tokens : List String) :
    (readTokens chain owner tokens).asked.Sublist
      (tokens.flatMap (tokenQuestions (ownerBytes owner))) := by
  induction tokens with
  | nil => exact List.Sublist.refl []
  | cons token rest ih =>
    rw [List.flatMap_cons]
    refine Inquiry.asked_bind_sublist (asked_readToken chain owner token) fun balance => ?_
    rwa [Inquiry.asked_bind_of_silent fun balances => rfl]

/-- A token that was read was asked everything. -/
theorem asked_readToken_of_ok {b : TokenBalance} (h : (readToken chain owner token).answer = .ok b) :
    (readToken chain owner token).asked = tokenQuestions (ownerBytes owner) token := by
  obtain ⟨balance, first, h, all⟩ := Inquiry.asked_bind_of_ok h
  obtain ⟨symbol, -, h, rest⟩ := Inquiry.asked_bind_of_ok h
  rw [readToken, all, rest, asked_tokenBalance_of_ok first, asked_tokenSymbol,
    Inquiry.asked_bind_of_silent fun decimals => rfl, asked_tokenDecimals]
  rfl

/-- Of tokens that were read, each one was asked everything. -/
theorem asked_readTokens_of_ok {tokens : List String} {bs : List TokenBalance}
    (h : (readTokens chain owner tokens).answer = .ok bs) :
    (readTokens chain owner tokens).asked = tokens.flatMap (tokenQuestions (ownerBytes owner)) := by
  induction tokens generalizing bs with
  | nil => rfl
  | cons token rest ih =>
    obtain ⟨balance, first, h, all⟩ := Inquiry.asked_bind_of_ok h
    obtain ⟨balances, others, -, -⟩ := Inquiry.asked_bind_of_ok h
    rw [readTokens, all, asked_readToken_of_ok first, Inquiry.asked_bind_of_silent fun balances => rfl,
      ih others, List.flatMap_cons]

/-! ## Questions of a delivery -/

/-- Tokens that are looked up are told apart. -/
theorem nodup_knownTokens {c : FilterCompiler} {faults : Faults} {w : World} {address : String}
    {tokens : List String} (h : knownTokens c faults w address = .ok tokens) : tokens.Nodup := by
  unfold knownTokens at h
  split at h
  case h_1 => cases h
  case h_2 q _ =>
    obtain ⟨-, found⟩ := unlessFaulty_eq_ok.mp (Fallible.mapError_eq_ok.mp h)
    rw [← Except.ok.inj found]
    cases w.logs <;> exact nodup_distinctValues _

/-- All that a refresh may ask about some tokens of an account. -/
def refreshQuestions (address : String) (tokens : List String) : List Question :=
  tokens.flatMap (tokenQuestions (ownerBytes address)) ++ [.balance address]

/-- The questions of a refresh differ if its tokens do. -/
theorem nodup_refreshQuestions (address : String) {tokens : List String} (apart : tokens.Nodup) :
    (refreshQuestions address tokens).Nodup := by
  refine List.nodup_append.mpr ⟨nodup_flatMap_tokenQuestions _ apart, by simp, ?_⟩
  intro q asked b last same
  obtain ⟨token, -, one⟩ := List.mem_flatMap.mp asked
  rw [same, List.mem_singleton.mp last] at one
  simp [tokenQuestions] at one

/-- **What a refresh asks:** a part of the questions about its tokens, which are told apart and which
with a transaction at hand are those of the transaction. -/
theorem exists_asked_readBalances (c : FilterCompiler) (chain : Chain) (faults : Faults) (w : World)
    (address : String) (transaction : Option Transaction) :
    ∃ tokens, tokens.Nodup ∧ (∀ t, transaction = some t → tokens = t.tokens) ∧
      (readBalances c chain faults w address transaction).asked.Sublist
        (refreshQuestions address tokens) := by
  have known : ∀ tokens, (do
      let balances ← readTokens chain address tokens
      let native ← (chain.askBalance address).within ("eth_getBalance(" ++ address ++ ") failed")
      return (⟨native.toDecimal, balances⟩ : Balances)).asked.Sublist
        (refreshQuestions address tokens) := by
    intro tokens
    refine Inquiry.asked_bind_sublist (asked_readTokens chain address tokens) fun balances => ?_
    rw [Inquiry.asked_bind_of_silent fun native => rfl]
    exact List.Sublist.refl _
  cases transaction with
  | some t => exact ⟨t.tokens, nodup_distinctValues _, fun _ same => by cases same; rfl, known t.tokens⟩
  | none =>
    cases scope : knownTokens c faults w address with
    | error e =>
      refine ⟨[], List.nodup_nil, nofun, ?_⟩
      rw [readBalances, scope]
      exact List.nil_sublist _
    | ok tokens =>
      refine ⟨tokens, nodup_knownTokens scope, nofun, ?_⟩
      rw [readBalances, scope]
      exact known tokens

/-- **A refresh asks no question twice.** -/
theorem nodup_asked_readBalances (c : FilterCompiler) (chain : Chain) (faults : Faults) (w : World)
    (address : String) (transaction : Option Transaction) :
    (readBalances c chain faults w address transaction).asked.Nodup := by
  obtain ⟨tokens, apart, -, part⟩ := exists_asked_readBalances c chain faults w address transaction
  exact (nodup_refreshQuestions address apart).sublist part

/-- A refresh that succeeds has asked everything about its tokens. -/
theorem asked_readBalances_of_ok {c : FilterCompiler} {faults : Faults} {w : World} {address : String}
    {t : Transaction} {fresh : Balances}
    (h : (readBalances c chain faults w address (some t)).answer = .ok fresh) :
    (readBalances c chain faults w address (some t)).asked = refreshQuestions address t.tokens := by
  obtain ⟨tokens, scope, h, all⟩ := Inquiry.asked_bind_of_ok h
  obtain rfl : t.tokens = tokens := Except.ok.inj scope
  obtain ⟨balances, read, -, rest⟩ := Inquiry.asked_bind_of_ok h
  rw [readBalances, all, rest, asked_readTokens_of_ok read,
    Inquiry.asked_bind_of_silent fun native => rfl]
  rfl

namespace Reconciler

/-- A delivery that has found its account asks what the refresh asks. -/
theorem asked_step_found (r : Reconciler) (n : Notification) (account : Account) (w : World) :
    (r.step (.found n account) w).2.2 =
      (readBalances r.compiler r.chain r.faults w n.address n.transaction).asked := by
  simp only [step, refresh, Inquiry.within]
  split <;> rfl

/-- A delivery that has read its balances asks nothing more. -/
theorem asked_steps_refreshed (r : Reconciler) (n : Notification) (account : Account) (w : World) :
    (r.steps 2 (.refreshed n account) w).2.2 = [] := by
  rcases step_refreshed_cases r n account w with ⟨-, step⟩ | ⟨e, -, step⟩
  · simp only [steps, step, List.nil_append, List.append_nil]
    rfl
  · simp only [steps, step, step_done, List.append_nil]

theorem asked_steps_succ (r : Reconciler) (k : Nat) (h : Handling) (w : World) :
    (r.steps (k + 1) h w).2.2 =
      (r.step h w).2.2 ++ (r.steps k (r.step h w).1 (r.step h w).2.1).2.2 := rfl

/-- **A delivery asks the chain no question twice.** -/
theorem nodup_asked_handle (r : Reconciler) (d : Delivery) (w : World) :
    (r.handle d w).2.2.Nodup := by
  show (r.steps (3 + 1) (.arrived d) w).2.2.Nodup
  rw [asked_steps_succ]
  rcases step_arrived_cases r d w with ⟨n, account, -, -, -, arrived⟩ | ⟨o, -, ended⟩
  case inr => simp only [ended, steps_done, List.append_nil, List.nodup_nil]
  rw [arrived]
  show (r.steps (2 + 1) (.found n account) w).2.2.Nodup
  have asked := nodup_asked_readBalances r.compiler r.chain r.faults w n.address n.transaction
  rw [asked_steps_succ, asked_step_found]
  rcases step_found_cases r n account w with ⟨fresh, _, -, found⟩ | ⟨e, _, ended⟩
  · rwa [found, asked_steps_refreshed, List.append_nil]
  · rwa [ended, steps_done, List.append_nil]

end Reconciler

end TransferLedger
