/-
# TransferLedger.Proofs.Account.Merge -- what a refresh leaves of the held tokens

Refreshed tokens are merged one after the other, and each takes the place of the ones before it that
have its address. So what stays are the held tokens that are not refreshed, in their order, and then
the last refreshed token of each address, in the order of these, without those that are zero.
-/

import TransferLedger.Account.Basic
import TransferLedger.Proofs.LastOfEach

namespace TransferLedger

open TransferLedger.Text

/-! ## Tokens with one address -/

namespace TokenBalance

/-- Whether two token balances are of one token. -/
def sameToken (s t : TokenBalance) : Bool := sameIgnoringCase s.address t.address

theorem sameToken_iff {s t : TokenBalance} :
    s.sameToken t = true ↔ lower s.address = lower t.address :=
  sameIgnoringCase_iff

theorem sameToken_comm (s t : TokenBalance) : s.sameToken t = t.sameToken s := by
  rw [Bool.eq_iff_iff, sameToken_iff, sameToken_iff, eq_comm]

@[simp] theorem sameToken_self (t : TokenBalance) : t.sameToken t = true := sameToken_iff.mpr rfl

theorem any_address_eq (t : TokenBalance) (tokens : List TokenBalance) :
    tokens.any (fun s => lower s.address == lower t.address) = tokens.any t.sameToken :=
  congrArg tokens.any (funext fun s => s.sameToken_comm t)

end TokenBalance

namespace Account

open TokenBalance

/-! ## The merge in closed form -/

/-- The last of the refreshed tokens of each address, without those that are zero. -/
def lasting : List TokenBalance → List TokenBalance
  | [] => []
  | t :: rest => if rest.any t.sameToken || t.isZero then lasting rest else t :: lasting rest

/-- They are the last tokens of each address, but for the zero ones. -/
theorem lasting_eq (fresh : List TokenBalance) :
    lasting fresh = (lastOfEach (fun t => lower t.address) fresh).filter (!·.isZero) := by
  induction fresh with
  | nil => rfl
  | cons t rest ih =>
    rw [lasting, lastOfEach, any_address_eq, ih]
    cases rest.any t.sameToken <;> cases zero : t.isZero <;> simp [zero]

/-- The entries that a refreshed token brings. -/
def entriesOf (t : TokenBalance) : List TokenBalance := if t.isZero then [] else [t]

theorem address_of_mem_entriesOf (t : TokenBalance) :
    ∀ s ∈ entriesOf t, lower s.address = lower t.address := by
  intro s hs
  unfold entriesOf at hs
  split at hs
  case isTrue => exact absurd hs List.not_mem_nil
  case isFalse => rw [List.mem_singleton.mp hs]

theorem flatMap_entriesOf (tokens : List TokenBalance) :
    tokens.flatMap entriesOf = tokens.filter (!·.isZero) := by
  induction tokens with
  | nil => rfl
  | cons t rest ih =>
    rw [List.flatMap_cons, ih, entriesOf]
    cases zero : t.isZero <;> simp [zero]

theorem refreshToken_eq (held : List TokenBalance) (t : TokenBalance) :
    refreshToken held t =
      held.filter (fun h => !h.sameToken t) ++ if t.isZero then [] else [t] := by
  unfold refreshToken
  split <;> simp [sameToken, *]

/-- **What a refresh leaves:** the tokens that are not refreshed, then the lasting ones. -/
theorem foldl_refreshToken (fresh held : List TokenBalance) :
    fresh.foldl refreshToken held =
      held.filter (fun h => !fresh.any h.sameToken) ++ lasting fresh := by
  have each : refreshToken = replaceLines (fun s : TokenBalance => lower s.address)
      (fun s => lower s.address) entriesOf := by
    funext held t
    exact refreshToken_eq held t
  rw [each, foldl_replaceLines address_of_mem_entriesOf, flatMap_entriesOf, lasting_eq]
  simp only [any_address_eq]

theorem tokens_merge (account : Account) (fresh : Balances) (now : Int64) :
    (account.merge fresh now).tokens =
      account.tokens.filter (fun h => !fresh.tokens.any h.sameToken) ++ lasting fresh.tokens :=
  foldl_refreshToken fresh.tokens account.tokens

@[simp] theorem address_merge (account : Account) (fresh : Balances) (now : Int64) :
    (account.merge fresh now).address = account.address := rfl

/-! ## One token after a refresh -/

/-- Tokens that are another one leave no entry of this one. -/
theorem lasting_of_apart {t : TokenBalance} {fresh : List TokenBalance}
    (apart : ∀ s ∈ fresh, s.sameToken t = false) : (lasting fresh).filter (·.sameToken t) = [] := by
  induction fresh with
  | nil => rfl
  | cons s rest ih =>
    have tail := ih fun u hu => apart u (List.mem_cons_of_mem _ hu)
    rw [lasting]
    split
    case isTrue => exact tail
    case isFalse => rw [List.filter_cons_of_neg (by simp [apart s List.mem_cons_self]), tail]

theorem lasting_of_last {t : TokenBalance} (front : List TokenBalance) {back : List TokenBalance}
    (last : ∀ s ∈ back, s.sameToken t = false) :
    (lasting (front ++ t :: back)).filter (·.sameToken t) = if t.isZero then [] else [t] := by
  -- By induction on what comes before: an entry lasts only if its token does not come again.
  induction front with
  | nil =>
    have fresh : back.any t.sameToken = false := by
      rw [List.any_eq_false]
      intro s hs
      rw [sameToken_comm, last s hs]
      decide
    rw [List.nil_append, lasting, fresh, Bool.false_or]
    split
    case isTrue => exact lasting_of_apart last
    case isFalse => rw [List.filter_cons_of_pos (by simp), lasting_of_apart last]
  | cons s front ih =>
    rw [List.cons_append, lasting]
    split
    case isTrue => exact ih
    case isFalse once =>
      have apart : s.sameToken t = false := by
        simp only [Bool.or_eq_true, not_or, Bool.not_eq_true, List.any_eq_false] at once
        simpa using once.1 t (by simp)
      rw [List.filter_cons_of_neg (by simp [apart]), ih]

/-- **The entries of a refreshed token** are the last refreshed one alone, or none if it is zero. -/
theorem merge_of_last {fresh : Balances} {front back : List TokenBalance} {t : TokenBalance}
    (split : fresh.tokens = front ++ t :: back) (last : ∀ s ∈ back, s.sameToken t = false)
    (account : Account) (now : Int64) :
    (account.merge fresh now).tokens.filter (·.sameToken t) = if t.isZero then [] else [t] := by
  rw [tokens_merge, List.filter_append, split, lasting_of_last front last, List.filter_filter]
  have held : account.tokens.filter
      (fun h => h.sameToken t && !(front ++ t :: back).any h.sameToken) = [] := by
    rw [List.filter_eq_nil_iff]
    intro h _
    cases same : h.sameToken t <;> simp [same]
  rw [held, List.nil_append]

end Account

end TransferLedger
