/-
# TransferLedger.Proofs.Number.Decimal -- numbers in decimal text

A number has one decimal text: digits only, without a zero in front, and reading them gives the
number.
-/

import TransferLedger.Number.Digits

namespace TransferLedger.Number

/-! ## Writing -/

theorem decimal_injective {m n : Nat} (h : decimal m = decimal n) : m = n := by
  have read : ∀ k, Nat.ofDigitChars 10 (decimal k) 0 = k := fun k => Nat.ofDigitChars_ten_toDigits
  rw [← read m, ← read n, h]

theorem decimalText_injective {m n : Nat} (h : decimalText m = decimalText n) : m = n :=
  decimal_injective (String.ofList_injective h)

theorem decimalWidth_le_iff {n k : Nat} (hk : 0 < k) : decimalWidth n ≤ k ↔ n < 10 ^ k :=
  Nat.length_toDigits_le_iff (by decide) hk

theorem isDigit_of_mem_decimal {n : Nat} {c : Char} (h : c ∈ decimal n) : c.isDigit = true :=
  Nat.isDigit_of_mem_toDigits (by decide) (by decide) h

theorem decimal_ne_nil (n : Nat) : decimal n ≠ [] := Nat.toDigits_ne_nil

theorem decimal_of_lt {n : Nat} (h : n < 10) : decimal n = [Nat.digitChar n] :=
  Nat.toDigits_of_lt_base h

theorem decimal_of_le {n : Nat} (h : 10 ≤ n) :
    decimal n = decimal (n / 10) ++ [Nat.digitChar (n % 10)] :=
  Nat.toDigits_of_base_le (by decide) h

/-- Zero alone is written with a zero in front. -/
theorem eq_zero_of_head_decimal {n : Nat} (h : (decimal n).head? = some '0') : n = 0 := by
  induction n using Nat.strongRecOn with
  | ind n ih =>
    by_cases small : n < 10
    · rw [decimal_of_lt small] at h
      have zero : ∀ d < 10, [Nat.digitChar d].head? = some '0' → d = 0 := by decide
      exact zero n small h
    · have large : 10 ≤ n := Nat.le_of_not_lt small
      obtain ⟨d, ds, first⟩ := List.exists_cons_of_ne_nil (decimal_ne_nil (n / 10))
      rw [decimal_of_le large, first] at h
      have leading : n / 10 = 0 := ih (n / 10) (by omega) (by rw [first]; exact h)
      omega

/-! ## Reading -/

theorem decimalValue?_of_isDigit {c : Char} (h : c.isDigit = true) :
    decimalValue? c = some (c.toNat - '0'.toNat) := by
  have range : '0' ≤ c ∧ c ≤ '9' := by
    simpa [Char.isDigit, Char.le_def] using h
  rw [decimalValue?, if_pos range]

theorem decimalNat?_eq_ofDigitChars {cs : List Char} (h : ∀ c ∈ cs, c.isDigit = true) :
    decimalNat? cs = some (Nat.ofDigitChars 10 cs 0) := by
  suffices go : ∀ n, cs.foldlM (fun n c => (decimalValue? c).map (10 * n + ·)) n =
      some (Nat.ofDigitChars 10 cs n) from go 0
  induction cs with
  | nil => intro n; rfl
  | cons c cs ih =>
    intro n
    rw [List.foldlM_cons, decimalValue?_of_isDigit (h c List.mem_cons_self)]
    exact ih (fun d hd => h d (List.mem_cons_of_mem _ hd)) _

/-- **The decimal text of a number denotes the number.** -/
theorem decimalNat?_decimal (n : Nat) : decimalNat? (decimal n) = some n := by
  rw [decimalNat?_eq_ofDigitChars fun _ => isDigit_of_mem_decimal]
  exact congrArg some Nat.ofDigitChars_ten_toDigits

end TransferLedger.Number
