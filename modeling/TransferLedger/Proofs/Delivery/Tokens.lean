/-
# TransferLedger.Proofs.Delivery.Tokens -- which tokens a transaction has read, and how often

The tokens of a transaction are the contracts of its transfers, in the order in which they occur first.
They are told apart by their spelling, while a contract is the same one in any letter case. So a refresh
reads each contract once if the transfers of the transaction spell it alike, and only then.
-/

import TransferLedger.Proofs.Reconcile.Questions

namespace TransferLedger

open TransferLedger.Text

/-! ## Transfers of a transaction -/

/-- **A log that is a token transfer:** the signature that it tells, or else its first topic, is the one
of transfers in any letter case. -/
def TransactionLog.Transfers (log : TransactionLog) : Prop :=
  ∃ s, (log.signature = some s ∨ log.signature = none ∧ log.topics.head? = some s) ∧
    lower s = lower EventSchema.transferTopic

theorem TransactionLog.isTransfer_iff {log : TransactionLog} :
    log.isTransfer = true ↔ log.Transfers := by
  have told : ∀ s, log.eventSignature = some s ↔
      log.signature = some s ∨ log.signature = none ∧ log.topics.head? = some s := by
    intro s
    rw [eventSignature]
    cases log.signature <;> simp
  rw [isTransfer, Option.any_eq_true, Transfers]
  refine exists_congr fun s => ?_
  rw [told, sameIgnoringCase_iff]

namespace Transaction

/-- The contracts of the token transfers of a transaction, in order. -/
def emitters (t : Transaction) : List String :=
  (t.logs.filter fun log => log.isTransfer).map (·.address)

/-- **A transaction that spells alike:** its transfers name a contract in one letter case only. -/
def SpellsAlike (t : Transaction) : Prop :=
  ∀ log ∈ t.logs, ∀ log' ∈ t.logs, log.Transfers → log'.Transfers →
    lower log.address = lower log'.address → log.address = log'.address

variable {t : Transaction}

theorem mem_tokens {a : String} :
    a ∈ t.tokens ↔ ∃ log ∈ t.logs, log.Transfers ∧ log.address = a := by
  rw [tokens, mem_distinctValues, List.mem_map]
  refine exists_congr fun log => ?_
  rw [List.mem_filter, TransactionLog.isTransfer_iff, and_assoc]

/-- **No contract is named twice if the transfers spell it alike,** and only then. -/
theorem nodup_lower_tokens_iff : (t.tokens.map lower).Nodup ↔ t.SpellsAlike := by
  constructor
  · intro once log mem log' mem' transfers transfers' same
    exact List.inj_on_of_nodup_map once (mem_tokens.mpr ⟨log, mem, transfers, rfl⟩)
      (mem_tokens.mpr ⟨log', mem', transfers', rfl⟩) same
  · intro alike
    refine List.Nodup.map_on ?_ (nodup_distinctValues _)
    intro a ha b hb same
    obtain ⟨log, mem, transfers, rfl⟩ := mem_tokens.mp ha
    obtain ⟨log', mem', transfers', rfl⟩ := mem_tokens.mp hb
    exact alike log mem log' mem' transfers transfers' same

end Transaction

/-! ## How often a contract is read -/

/-- The data of the calls by which a refresh reads a token. -/
def readData (owner : List UInt8) : List String :=
  [(TokenCall.balanceOf owner).data, TokenCall.symbol.data, TokenCall.decimals.data]

theorem nodup_readData (owner : List UInt8) : (readData owner).Nodup :=
  List.Nodup.of_map _ (nodup_tokenQuestions owner "")

/-- Whether a question is a call of a contract, named in any letter case, with some data. -/
def Question.isRead (contract data : String) : Question → Bool
  | .balance _ => false
  | .call c d => sameIgnoringCase c contract && d == data

/-- How often a contract is read with some data among questions. -/
def reads (contract data : String) (asked : List Question) : Nat :=
  asked.countP (·.isRead contract data)

section

variable {contract data address : String}

/-- A token is read once with each data if it is the contract, and not at all otherwise. -/
theorem reads_tokenQuestions (owner : List UInt8) (token : String) :
    reads contract data (tokenQuestions owner token) =
      if lower token = lower contract then (readData owner).count data else 0 := by
  show ((readData owner).map (Question.call token)).countP _ = _
  rw [List.countP_map]
  split
  case isTrue same =>
    refine List.countP_congr fun d _ => ?_
    simp [Question.isRead, sameIgnoringCase, same]
  case isFalse other =>
    rw [List.countP_eq_zero]
    simp [Question.isRead, sameIgnoringCase, other]

/-- **A contract is read as often as it is named.** -/
theorem reads_refreshQuestions (tokens : List String) :
    reads contract data (refreshQuestions address tokens) =
      (tokens.map lower).count (lower contract) * (readData (ownerBytes address)).count data := by
  have last : reads contract data [.balance address] = 0 := rfl
  rw [refreshQuestions, reads, List.countP_append]
  show reads contract data _ + reads contract data _ = _
  rw [last, Nat.add_zero]
  induction tokens with
  | nil => simp [reads]
  | cons token rest ih =>
    rw [List.flatMap_cons, reads, List.countP_append]
    show reads contract data _ + reads contract data _ = _
    rw [ih, reads_tokenQuestions, List.map_cons, List.count_cons]
    by_cases same : lower token = lower contract
    · simp [same, Nat.add_mul, Nat.add_comm]
    · simp [same]

end

/-! ## The main theorem -/

namespace Transaction

variable {t : Transaction} {c : FilterCompiler} {chain : Chain} {faults : Faults} {w : World}
  {address : String}

/-- **A refresh reads no contract twice if the transfers spell alike.** -/
theorem SpellsAlike.reads_le_one (h : t.SpellsAlike) (contract data : String) :
    reads contract data (readBalances c chain faults w address (some t)).asked ≤ 1 := by
  obtain ⟨tokens, -, scope, part⟩ := exists_asked_readBalances c chain faults w address (some t)
  obtain rfl := scope t rfl
  have named : (t.tokens.map lower).count (lower contract) ≤ 1 :=
    List.nodup_iff_count_le_one.mp (nodup_lower_tokens_iff.mpr h) _
  have told : (readData (ownerBytes address)).count data ≤ 1 :=
    List.nodup_iff_count_le_one.mp (nodup_readData _) _
  calc reads contract data (readBalances c chain faults w address (some t)).asked
      ≤ reads contract data (refreshQuestions address t.tokens) := part.countP_le
    _ = (t.tokens.map lower).count (lower contract) * (readData (ownerBytes address)).count data :=
      reads_refreshQuestions _
    _ ≤ 1 * 1 := Nat.mul_le_mul named told

/-- A refresh that succeeds and reads no contract twice has met transfers that spell alike. -/
theorem spellsAlike_of_reads {fresh : Balances}
    (done : (readBalances c chain faults w address (some t)).answer = .ok fresh)
    (once : ∀ contract data,
      reads contract data (readBalances c chain faults w address (some t)).asked ≤ 1) :
    t.SpellsAlike := by
  rw [← nodup_lower_tokens_iff, List.nodup_iff_count_le_one]
  intro a
  by_cases named : a ∈ t.tokens.map lower
  · obtain ⟨contract, -, rfl⟩ := List.mem_map.mp named
    -- Each mention of a contract asks for its symbol once, so the symbols count the mentions.
    have symbols := once contract TokenCall.symbol.data
    rw [asked_readBalances_of_ok done, reads_refreshQuestions,
      List.count_eq_one_of_mem (nodup_readData _) (by simp [readData]), Nat.mul_one] at symbols
    exact symbols
  · rw [List.count_eq_zero_of_not_mem named]
    exact Nat.zero_le 1

/-- **Which tokens of a transaction are read, and how often.** They are the contracts of its transfers
and no others, in the order of their first occurrence. No two are equal up to letter case if the
transfers spell each contract alike, and only then; and then a refresh asks each contract for a balance,
a symbol and decimals at most once. A refresh that succeeds asks some contract more often otherwise. -/
theorem tokens_read_once_iff (t : Transaction) :
    (∀ a, a ∈ t.tokens ↔ ∃ log ∈ t.logs, log.Transfers ∧ log.address = a) ∧
      (t.tokens.Pairwise fun a b => t.emitters.idxOf a < t.emitters.idxOf b) ∧
      ((t.tokens.map lower).Nodup ↔ t.SpellsAlike) ∧
      ∀ (c : FilterCompiler) (chain : Chain) (faults : Faults) (w : World) (address : String),
        (t.SpellsAlike → ∀ contract data,
          reads contract data (readBalances c chain faults w address (some t)).asked ≤ 1) ∧
        ∀ fresh, (readBalances c chain faults w address (some t)).answer = .ok fresh →
          (∀ contract data,
            reads contract data (readBalances c chain faults w address (some t)).asked ≤ 1) →
          t.SpellsAlike :=
  ⟨fun _ => mem_tokens, pairwise_idxOf_distinctValues t.emitters, nodup_lower_tokens_iff,
    fun _ _ _ _ _ => ⟨SpellsAlike.reads_le_one, fun _ => spellsAlike_of_reads⟩⟩

end Transaction

namespace SpelledTwice

/-- The address of an account. -/
def owner : String := "0xa100000000000000000000000000000000000000"

/-- A chain where every balance is 32 and every token returns a word of zeros. -/
def chain : Chain := ⟨fun _ => .ok 32, fun _ _ => .ok (String.ofList (List.replicate 64 '0'))⟩

/-- A world without accounts and logs. -/
def world : World := ⟨.memory .empty, .memory .empty, ⟨16, [], 0, []⟩⟩

/-- A transaction with a transfer of each of some contracts. -/
def moving (contracts : List String) : Transaction where
  hash := "0x9"
  logs := contracts.map fun contract => ⟨contract, [EventSchema.transferTopic], "0x", none⟩
  extra := []

/-- The refresh that such a transaction causes. -/
def refresh (contracts : List String) : Inquiry Balances :=
  readBalances .transfer chain .none world owner (some (moving contracts))

/-- **A contract that is spelled in two ways is read twice.** -/
theorem contract_is_read_twice :
    (moving ["0xC3", "0xc3"]).tokens = ["0xC3", "0xc3"] ∧ lower "0xC3" = lower "0xc3" ∧
      reads "0xc3" TokenCall.symbol.data (refresh ["0xC3", "0xc3"]).asked = 2 := by
  decide +kernel

/-- A contract that is spelled in one way is read once, whoever else is. -/
theorem contract_is_read_once :
    (moving ["0xC3", "0xd4", "0xC3"]).SpellsAlike ∧ (refresh ["0xC3", "0xd4", "0xC3"]).answer.isOk ∧
      reads "0xc3" TokenCall.symbol.data (refresh ["0xC3", "0xd4", "0xC3"]).asked ≤ 1 := by
  obtain ⟨-, -, alike, once⟩ := (moving ["0xC3", "0xd4", "0xC3"]).tokens_read_once_iff
  have spelled : (moving ["0xC3", "0xd4", "0xC3"]).SpellsAlike := alike.mp (by decide +kernel)
  exact ⟨spelled, by decide +kernel, (once .transfer chain .none world owner).1 spelled _ _⟩

end SpelledTwice

end TransferLedger
