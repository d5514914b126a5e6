/-
# TransferLedger.Proofs.Number.Hex -- numbers in hex digits

The letter case of the digits and zeros in front of them do not change the number that they denote,
and so many digits denote a number below as many powers of sixteen.
-/

import TransferLedger.Number.Word

namespace TransferLedger

open TransferLedger.Text

/-! ## Single digits -/

theorem toLower_of_le {c : Char} (h : 128 ≤ c.toNat) : c.toLower = c := by
  have past : ¬(c.val ≥ 'A'.val ∧ c.val ≤ 'Z'.val) := by
    rintro ⟨_, upper⟩
    have bound : c.toNat ≤ 90 := upper
    omega
  exact dif_neg past

/-- What holds of all ASCII characters and of all that are their own lower case holds of all. -/
theorem char_cases {p : Char → Prop} (ascii : ∀ n < 128, p (Char.ofNat n))
    (other : ∀ c : Char, 128 ≤ c.toNat → c.toLower = c → p c) (c : Char) : p c := by
  by_cases small : c.toNat < 128
  · rw [← Char.ofNat_toNat c]
    exact ascii c.toNat small
  · have large : 128 ≤ c.toNat := Nat.le_of_not_lt small
    exact other c large (toLower_of_le large)

theorem hexValue?_toLower (c : Char) : hexValue? c.toLower = hexValue? c :=
  char_cases (by decide) (fun _ _ same => congrArg hexValue? same) c

theorem hexValue?_of_le {c : Char} (h : 128 ≤ c.toNat) : hexValue? c = none := by
  have past : ∀ d : Char, d.toNat < 128 → ¬c ≤ d := by
    intro d hd le
    have bound : c.toNat ≤ d.toNat := le
    omega
  rw [hexValue?, if_neg fun range => past '9' (by decide) range.2,
    if_neg fun range => past 'f' (by decide) range.2,
    if_neg fun range => past 'F' (by decide) range.2]

/-- A hex digit has a value below sixteen and is no blank. -/
theorem of_hexValue? {c : Char} {v : Nat} (h : hexValue? c = some v) :
    v < 16 ∧ isBlank c = false := by
  have all : (hexValue? c).all fun v => decide (v < 16) && !isBlank c := by
    refine char_cases (p := fun c => (hexValue? c).all fun v => decide (v < 16) && !isBlank c)
      (by decide) (fun c large _ => ?_) c
    rw [hexValue?_of_le large]
    rfl
  rw [h] at all
  simpa using all

/-! ## Runs of digits -/

/-- **Characters that are hex digits,** in any letter case. -/
def IsHex (cs : List Char) : Prop := ∀ c ∈ cs, (hexValue? c).isSome = true

namespace IsHex

variable {c : Char} {front back cs : List Char}

theorem cons (hc : (hexValue? c).isSome = true) (h : IsHex cs) : IsHex (c :: cs) :=
  List.forall_mem_cons.mpr ⟨hc, h⟩

theorem zeros (n : Nat) : IsHex (List.replicate n '0') := by
  intro c hc
  rw [List.eq_of_mem_replicate hc]
  rfl

theorem of_cons (h : IsHex (c :: cs)) : IsHex cs := fun d hd => h d (List.mem_cons_of_mem c hd)

theorem append (hf : IsHex front) (hb : IsHex back) : IsHex (front ++ back) :=
  List.forall_mem_append.mpr ⟨hf, hb⟩

theorem left (h : IsHex (front ++ back)) : IsHex front :=
  fun c hc => h c (List.mem_append_left back hc)

theorem right (h : IsHex (front ++ back)) : IsHex back :=
  fun c hc => h c (List.mem_append_right front hc)

theorem take (h : IsHex cs) (n : Nat) : IsHex (cs.take n) := fun c hc => h c (List.mem_of_mem_take hc)

theorem drop (h : IsHex cs) (n : Nat) : IsHex (cs.drop n) := fun c hc => h c (List.mem_of_mem_drop hc)

theorem map_toLower (h : IsHex cs) : IsHex (cs.map Char.toLower) := by
  intro c hc
  obtain ⟨d, hd, rfl⟩ := List.mem_map.mp hc
  rw [hexValue?_toLower]
  exact h d hd

/-- No hex digit is blank. -/
theorem isBlank (h : IsHex cs) : ∀ c ∈ cs, isBlank c = false := by
  intro c hc
  obtain ⟨v, hv⟩ := Option.isSome_iff_exists.mp (h c hc)
  exact (of_hexValue? hv).2

theorem ascii (h : IsHex cs) : ∀ c ∈ cs, c.toNat < 128 := by
  intro c hc
  refine Nat.lt_of_not_le fun large => ?_
  have digit := h c hc
  rw [hexValue?_of_le large] at digit
  cases digit

end IsHex

theorem hexNat?_map_toLower (cs : List Char) : hexNat? (cs.map Char.toLower) = hexNat? cs := by
  simp only [hexNat?, List.foldlM_map, hexValue?_toLower]

theorem hexNat?_zeros (k : Nat) (cs : List Char) :
    hexNat? (List.replicate k '0' ++ cs) = hexNat? cs := by
  induction k with
  | zero => rfl
  | succ k ih =>
    rw [List.replicate_succ, List.cons_append]
    exact ih

/-- So many digits denote a number below as many powers of sixteen. -/
theorem hexNat?_of_digits {cs : List Char} (h : IsHex cs) :
    ∃ n < 16 ^ cs.length, hexNat? cs = some n := by
  suffices go : ∀ m, ∃ n < (m + 1) * 16 ^ cs.length,
      cs.foldlM (fun n c => (hexValue? c).map (16 * n + ·)) m = some n by
    obtain ⟨n, small, run⟩ := go 0
    exact ⟨n, by omega, run⟩
  induction cs with
  | nil => exact fun m => ⟨m, by simp, rfl⟩
  | cons c cs ih =>
    intro m
    obtain ⟨v, hv⟩ := Option.isSome_iff_exists.mp (h c List.mem_cons_self)
    obtain ⟨n, small, run⟩ := ih h.of_cons (16 * m + v)
    refine ⟨n, Nat.lt_of_lt_of_le small ?_, ?_⟩
    · have digit : v < 16 := (of_hexValue? hv).1
      calc (16 * m + v + 1) * 16 ^ cs.length
          ≤ (m + 1) * 16 * 16 ^ cs.length := Nat.mul_le_mul_right _ (by omega)
        _ = (m + 1) * 16 ^ (c :: cs).length := by
          rw [List.length_cons, Nat.pow_succ, Nat.mul_assoc, Nat.mul_comm 16]
    · rw [List.foldlM_cons, hv]
      exact run

/-! ## Scalars -/

/-- A mark is one in any letter case. -/
theorem afterHexMark?_map_toLower (cs : List Char) :
    afterHexMark? (cs.map Char.toLower) = (afterHexMark? cs).map (List.map Char.toLower) := by
  have zero : ∀ c : Char, c.toLower = '0' → c = '0' :=
    char_cases (by decide) fun _ _ same h => same ▸ h
  have mark : ∀ c : Char, c.toLower = 'x' ∨ c.toLower = 'X' → c = 'x' ∨ c = 'X' :=
    char_cases (by decide) fun _ _ same h => same ▸ h
  fun_cases afterHexMark? cs with
  | case1 rest => rfl
  | case2 rest => rfl
  | case3 cs small large =>
    have unmarked : ∀ (d : Char) (rest : List Char), d = 'x' ∨ d = 'X' →
        cs.map Char.toLower ≠ '0' :: d :: rest := by
      intro d rest marked same
      obtain ⟨c, more, rfl, first, same⟩ := List.map_eq_cons_iff.mp same
      obtain ⟨e, after, rfl, rfl, -⟩ := List.map_eq_cons_iff.mp same
      obtain rfl := zero c first
      rcases mark e marked with rfl | rfl
      · exact small after rfl
      · exact large after rfl
    unfold afterHexMark?
    split
    case h_1 rest same => exact absurd same (unmarked 'x' rest (.inl rfl))
    case h_2 rest same => exact absurd same (unmarked 'X' rest (.inr rfl))
    case h_3 => rfl

theorem dropWhile_isBlank {cs : List Char} (h : ∀ c ∈ cs, isBlank c = false) :
    cs.dropWhile isBlank = cs := by
  cases cs with
  | nil => rfl
  | cons c cs => rw [List.dropWhile_cons_of_neg (by simp [h c List.mem_cons_self])]

theorem trimBlanks_of_none {cs : List Char} (h : ∀ c ∈ cs, isBlank c = false) :
    trimBlanks cs = cs := by
  have reversed : ∀ c ∈ cs.reverse, isBlank c = false := fun c hc => h c (List.mem_reverse.mp hc)
  rw [trimBlanks, dropWhile_isBlank h, dropWhile_isBlank reversed, List.reverse_reverse]

end TransferLedger
