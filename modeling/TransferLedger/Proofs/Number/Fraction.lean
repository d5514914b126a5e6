/-
# TransferLedger.Proofs.Number.Fraction -- what a fraction is written as

A fraction is written as a decimal that rounds to it: its sign, and a decimal that is not beyond the
middle between the magnitude of the fraction and either neighbour. The magnitudes are counted from zero
in the order of the bits without the sign. The search for digits tests points of ever finer decimal
grids against the span of a value, which reaches from one middle to the other. The first point that it
finds is within the span, and it finds one among seventeen digits, since a grid of so many is finer
than any span.
-/

import Mathlib.Algebra.Order.Field.Power
import Mathlib.Data.List.DropRight
import Mathlib.Tactic.Linarith
import Mathlib.Tactic.NormNum
import Mathlib.Tactic.Positivity
import Mathlib.Tactic.Ring
import TransferLedger.Number.Binary64
import TransferLedger.Proofs.Number.Decimal

namespace TransferLedger.Number

/-! ## Magnitudes -/

/-- **The magnitudes in their order,** the first of which is zero: up to `2 ^ 52` they are even steps,
and then the steps double with each power of two. -/
def magnitude (n : Nat) : ℚ :=
  if n < 2 ^ 52 then n * 2 ^ (-1074 : ℤ)
  else (2 ^ 52 + n % 2 ^ 52 : Nat) * 2 ^ ((n / 2 ^ 52 : Nat) - 1075 : ℤ)

/-- **A number that rounds to a magnitude:** it is not beyond the middle of that and either
neighbour. The middle itself rounds to the even one. -/
structure RoundsTo (v : ℚ) (n : Nat) : Prop where
  low : (magnitude (n - 1) + magnitude n) / 2 ≤ v
  high : v ≤ (magnitude n + magnitude (n + 1)) / 2
  odd : n % 2 = 1 →
    (magnitude (n - 1) + magnitude n) / 2 < v ∧ v < (magnitude n + magnitude (n + 1)) / 2

theorem magnitude_of_le {n : Nat} (h : n ≤ 2 ^ 52) : magnitude n = n * 2 ^ (-1074 : ℤ) := by
  rcases Nat.lt_or_eq_of_le h with small | rfl
  · exact if_pos small
  · norm_num [magnitude]

theorem magnitude_add {e f : Nat} (he : 1 ≤ e) (hf : f ≤ 2 ^ 52) :
    magnitude (2 ^ 52 * e + f) = (2 ^ 52 + f : Nat) * 2 ^ (e - 1075 : ℤ) := by
  have large : ¬2 ^ 52 * e + f < 2 ^ 52 := by omega
  rw [magnitude, if_neg large]
  rcases Nat.lt_or_eq_of_le hf with less | rfl
  · rw [show (2 ^ 52 * e + f) % 2 ^ 52 = f by omega, show (2 ^ 52 * e + f) / 2 ^ 52 = e by omega]
  · -- the first magnitude with steps of twice the size
    rw [show (2 ^ 52 * e + 2 ^ 52) % 2 ^ 52 = 0 by omega,
      show (2 ^ 52 * e + 2 ^ 52) / 2 ^ 52 = e + 1 by omega]
    have next : ((e + 1 : Nat) - 1075 : ℤ) = (e - 1075 : ℤ) + 1 := by push_cast; ring
    rw [next, zpow_add_one₀ (by norm_num)]
    push_cast
    ring

namespace Binary64

variable {x : Binary64}

/-- The place of a fraction among the magnitudes: its bits without the sign. -/
def place (x : Binary64) : Nat := x.bits.toNat % 2 ^ 63

theorem place_eq (x : Binary64) : x.place = 2 ^ 52 * x.biased + x.fraction := by
  rw [place, biased, fraction]
  omega

theorem fraction_lt (x : Binary64) : x.fraction < 2 ^ 52 := Nat.mod_lt _ (by norm_num)

/-- The magnitudes with the exponent of a fraction are as far apart as its last place. -/
theorem magnitude_of_biased (x : Binary64) {f : Nat} (hf : f ≤ 2 ^ 52) :
    magnitude (2 ^ 52 * x.biased + f) = (x.parts.1 - x.fraction + f) * 2 ^ x.parts.2 := by
  unfold parts
  split
  case isTrue small =>
    rw [small, Nat.mul_zero, Nat.zero_add, magnitude_of_le hf]
    ring
  case isFalse large =>
    rw [magnitude_add (Nat.one_le_iff_ne_zero.mpr large) hf]
    push_cast
    ring

theorem magnitude_place (x : Binary64) : magnitude x.place = x.parts.1 * 2 ^ x.parts.2 := by
  rw [place_eq, magnitude_of_biased x x.fraction_lt.le, sub_add_cancel]

theorem magnitude_place_succ (x : Binary64) :
    magnitude (x.place + 1) = (x.parts.1 + 1) * 2 ^ x.parts.2 := by
  rw [place_eq, Nat.add_assoc, magnitude_of_biased x x.fraction_lt]
  push_cast
  ring

/-- Just above a power of two the lower neighbour is half as far away. -/
theorem magnitude_place_pred (nonzero : x.parts.1 ≠ 0) : magnitude (x.place - 1) =
    (x.parts.1 - if x.fraction = 0 ∧ 1 < x.biased then 1 / 2 else 1) * 2 ^ x.parts.2 := by
  by_cases first : x.fraction = 0
  · have large : x.biased ≠ 0 := by
      intro small
      rw [parts, if_pos small] at nonzero
      exact nonzero first
    have parts : x.parts = (2 ^ 52, (x.biased : ℤ) - 1075) := by
      rw [parts, if_neg large, first, Nat.zero_add]
    rw [place_eq, parts]
    by_cases least : x.biased = 1
    · have none : ¬(x.fraction = 0 ∧ 1 < x.biased) := by omega
      rw [if_neg none, first, least, magnitude_of_le (by norm_num)]
      norm_num
    · have below : 2 ^ 52 * x.biased + x.fraction - 1 = 2 ^ 52 * (x.biased - 1) + (2 ^ 52 - 1) := by
        omega
      have smaller : ((x.biased - 1 : Nat) - 1075 : ℤ) = (x.biased - 1075 : ℤ) - 1 := by omega
      rw [if_pos (by omega), below, magnitude_add (by omega) (by norm_num), smaller,
        zpow_sub_one₀ (by norm_num)]
      norm_num
      ring
  · have none : ¬(x.fraction = 0 ∧ 1 < x.biased) := fun h => first h.1
    have below : 2 ^ 52 * x.biased + x.fraction - 1 = 2 ^ 52 * x.biased + (x.fraction - 1) := by omega
    rw [place_eq, if_neg none, below, magnitude_of_biased x (by have := x.fraction_lt; omega),
      Nat.cast_sub (Nat.one_le_iff_ne_zero.mpr first)]
    push_cast
    ring

theorem parts_mod_two (x : Binary64) : x.parts.1 % 2 = x.place % 2 := by
  rw [place_eq, parts]
  split <;> omega

/-- **The span of a value** reaches to the middle between it and either neighbour. -/
structure Span.Reaches (s : Span) (n : Nat) : Prop where
  low : (magnitude (n - 1) + magnitude n) / 2 = s.low * 2 ^ s.exponent
  high : (magnitude n + magnitude (n + 1)) / 2 = s.high * 2 ^ s.exponent
  closed : s.closed = true ↔ n % 2 = 0

theorem reaches_span (nonzero : x.parts.1 ≠ 0) : x.span.Reaches x.place := by
  have quarter : (2 : ℚ) ^ x.parts.2 = 4 * 2 ^ (x.parts.2 - 2) := by
    rw [zpow_sub₀ (by norm_num)]
    ring
  constructor
  case low =>
    show _ = ((4 * x.parts.1 - if x.fraction = 0 ∧ 1 < x.biased then 1 else 2 : Nat) : ℚ) *
      2 ^ (x.parts.2 - 2)
    rw [magnitude_place, magnitude_place_pred nonzero, quarter]
    split
    all_goals
      rw [Nat.cast_sub (by omega)]
      push_cast
      ring
  case high =>
    show _ = ((4 * x.parts.1 + 2 : Nat) : ℚ) * 2 ^ (x.parts.2 - 2)
    rw [magnitude_place, magnitude_place_succ, quarter]
    push_cast
    ring
  case closed =>
    show decide (x.parts.1 % 2 = 0) = true ↔ _
    rw [decide_eq_true_iff, parts_mod_two]

/-! ## Points of a grid -/

theorem grid_unit_pos (k e : ℤ) : 0 < (grid k e).unit := by
  unfold grid
  positivity

theorem grid_scale_pos (k e : ℤ) : 0 < (grid k e).scale := by
  unfold grid
  positivity

/-- A grid compares its points with binary multiples. -/
theorem grid_scale (k e : ℤ) : ((grid k e).scale : ℚ) * 2 ^ e = (grid k e).unit * 10 ^ k := by
  have quotient : ∀ (b : ℚ) (z : ℤ), b ≠ 0 → b ^ z.toNat = b ^ (-z).toNat * b ^ z := by
    intro b z nonzero
    have split : (z.toNat : ℤ) = (-z).toNat + z := by omega
    rw [← zpow_natCast, ← zpow_natCast, ← zpow_add₀ nonzero, split]
  have two := quotient 2 e (by norm_num)
  have ten := quotient 10 k (by norm_num)
  unfold grid
  push_cast
  rw [two, ten]
  ring

/-- Multiples of `2 ^ e` and points of a grid are compared in one measure. -/
theorem exists_measure (k e : ℤ) : ∃ c : ℚ, 0 < c ∧
    (∀ y : Nat, ((y * (grid k e).unit : Nat) : ℚ) = y * 2 ^ e * c) ∧
      ∀ d : Nat, ((d * (grid k e).scale : Nat) : ℚ) = d * 10 ^ k * c := by
  have unit : (0 : ℚ) < (grid k e).unit := Nat.cast_pos.mpr (grid_unit_pos k e)
  have power : (2 : ℚ) ^ e ≠ 0 := by positivity
  have scale : ((grid k e).scale : ℚ) = (grid k e).unit * 10 ^ k / 2 ^ e := by
    rw [← grid_scale, mul_div_cancel_right₀ _ power]
  refine ⟨(grid k e).unit / 2 ^ e, by positivity, fun y => ?_, fun d => ?_⟩
  · rw [Nat.cast_mul, mul_assoc, mul_div_cancel₀ _ power]
  · rw [Nat.cast_mul, scale]
    ring

section Compared

variable {k e : ℤ} {y d : Nat}

theorem mul_unit_le_iff :
    y * (grid k e).unit ≤ d * (grid k e).scale ↔ (y : ℚ) * 2 ^ e ≤ d * 10 ^ k := by
  obtain ⟨c, positive, multiple, point⟩ := exists_measure k e
  rw [← @Nat.cast_le ℚ, multiple, point, mul_le_mul_iff_of_pos_right positive]

theorem mul_scale_le_iff :
    d * (grid k e).scale ≤ y * (grid k e).unit ↔ (d : ℚ) * 10 ^ k ≤ y * 2 ^ e := by
  obtain ⟨c, positive, multiple, point⟩ := exists_measure k e
  rw [← @Nat.cast_le ℚ, multiple, point, mul_le_mul_iff_of_pos_right positive]

end Compared

variable {s : Span} {g : Grid} {d : Nat}

/-- **A point within the span of a value rounds to it.** -/
theorem Span.Reaches.roundsTo {n : Nat} {k : ℤ} (reach : s.Reaches n)
    (holds : s.holds (grid k s.exponent) d = true) : RoundsTo (d * 10 ^ k) n := by
  rw [Span.holds] at holds
  split at holds
  case isTrue closed =>
    rw [Bool.and_eq_true, decide_eq_true_iff, decide_eq_true_iff] at holds
    refine ⟨?_, ?_, fun odd => ?_⟩
    · rw [reach.low]
      exact mul_unit_le_iff.mp holds.1
    · rw [reach.high]
      exact mul_scale_le_iff.mp holds.2
    · have even := reach.closed.mp closed
      omega
  case isFalse =>
    rw [Bool.and_eq_true, decide_eq_true_iff, decide_eq_true_iff] at holds
    have low : (s.low : ℚ) * 2 ^ s.exponent < d * 10 ^ k :=
      lt_of_not_ge fun h => absurd (mul_scale_le_iff.mpr h) (Nat.not_le.mpr holds.1)
    have high : (d : ℚ) * 10 ^ k < s.high * 2 ^ s.exponent :=
      lt_of_not_ge fun h => absurd (mul_unit_le_iff.mpr h) (Nat.not_le.mpr holds.2)
    rw [← reach.low] at low
    rw [← reach.high] at high
    exact ⟨low.le, high.le, fun _ => ⟨low, high⟩⟩

/-! ## The fewest digits -/

theorem Span.holds_of_pick? (h : s.pick? g = some d) : s.holds g d = true := by
  simp only [Span.pick?] at h
  split at h
  case h_1 first second =>
    split_ifs at h
    · obtain rfl := Option.some.inj h
      exact first
    · obtain rfl := Option.some.inj h
      exact second
    · obtain rfl := Option.some.inj h
      rcases Nat.mod_two_eq_zero_or_one (s.value * g.unit / g.scale) with even | odd
      · rw [even]
        exact first
      · rw [odd]
        exact second
  case h_2 first _ =>
    obtain rfl := Option.some.inj h
    exact first
  case h_3 _ second =>
    obtain rfl := Option.some.inj h
    exact second
  case h_4 => cases h

theorem Span.holds_of_inside (low : s.low * g.unit < d * g.scale)
    (high : d * g.scale < s.high * g.unit) : s.holds g d = true := by
  rw [Span.holds]
  split
  case isTrue => exact Bool.and_eq_true_iff.mpr ⟨decide_eq_true low.le, decide_eq_true high.le⟩
  case isFalse => exact Bool.and_eq_true_iff.mpr ⟨decide_eq_true low, decide_eq_true high⟩

/-- **A grid that is finer than the span** has a point in it, next to the value. -/
theorem Span.exists_pick? (below : s.low < s.value) (above : s.value < s.high) (unit : 0 < g.unit)
    (scale : 0 < g.scale) (fine : g.scale < (s.high - s.low) * g.unit) :
    ∃ d, s.pick? g = some d ∧ s.value * g.unit / g.scale ≤ d := by
  set floor := s.value * g.unit / g.scale with hfloor
  have lower : floor * g.scale ≤ s.value * g.unit := Nat.div_mul_le_self _ _
  have upper : s.value * g.unit < (floor + 1) * g.scale :=
    Nat.lt_mul_of_div_lt (Nat.lt_succ_self _) scale
  simp only [Span.pick?, ← hfloor]
  cases first : s.holds g floor with
  | true =>
    cases s.holds g (floor + 1) with
    | true =>
      split_ifs
      · exact ⟨floor, rfl, Nat.le_refl floor⟩
      · exact ⟨floor + 1, rfl, Nat.le_succ floor⟩
      · exact ⟨floor + floor % 2, rfl, Nat.le_add_right floor _⟩
    | false => exact ⟨floor, rfl, Nat.le_refl floor⟩
  | false =>
    cases second : s.holds g (floor + 1) with
    | true => exact ⟨floor + 1, rfl, Nat.le_succ floor⟩
    | false =>
      -- Two points next to each other would be on either side of the span.
      have left : s.low * g.unit < s.value * g.unit := Nat.mul_lt_mul_of_pos_right below unit
      have right : s.value * g.unit < s.high * g.unit := Nat.mul_lt_mul_of_pos_right above unit
      have before : floor * g.scale ≤ s.low * g.unit := Nat.le_of_not_lt fun inside =>
        Bool.false_ne_true (first.symm.trans (Span.holds_of_inside inside (by omega)))
      have after : s.high * g.unit ≤ (floor + 1) * g.scale := Nat.le_of_not_lt fun inside =>
        Bool.false_ne_true (second.symm.trans (Span.holds_of_inside (by omega) inside))
      rw [Nat.sub_mul] at fine
      rw [Nat.add_mul, Nat.one_mul] at after
      omega

/-- What is reached on the way down, and not at once, is reached from the next number on. -/
theorem exists_later {p : ℤ → Prop} {tries : Nat} {k : ℤ} (h : ∃ i : Nat, i < tries + 1 ∧ p (k - i))
    (missed : ¬p k) : ∃ i : Nat, i < tries ∧ p (k - 1 - i) := by
  obtain ⟨i, early, reached⟩ := h
  cases i with
  | zero =>
    rw [Nat.cast_zero, sub_zero] at reached
    exact absurd reached missed
  | succ i =>
    have next : k - 1 - i = k - (i + 1 : Nat) := by push_cast; ring
    exact ⟨i, by omega, next ▸ reached⟩

/-- The search finds the first grid with a point in the span, other than zero. -/
theorem Span.exists_shortest? {tries : Nat} {k : ℤ} (h : ∃ i : Nat, i < tries ∧ ∃ d,
    s.pick? (grid (k - i) s.exponent) = some d ∧ d ≠ 0) :
    ∃ d k', s.shortest? tries k = some (d, k') ∧ d ≠ 0 ∧ s.pick? (grid k' s.exponent) = some d := by
  induction tries generalizing k with
  | zero =>
    obtain ⟨i, none, -⟩ := h
    exact absurd none (Nat.not_lt_zero i)
  | succ tries ih =>
    by_cases here : ∃ d, s.pick? (grid k s.exponent) = some d ∧ d ≠ 0
    · obtain ⟨d, found, nonzero⟩ := here
      refine ⟨d, k, ?_, nonzero, found⟩
      simp only [Span.shortest?, found, if_neg nonzero]
    · have next : s.shortest? (tries + 1) k = s.shortest? tries (k - 1) := by
        rw [Span.shortest?]
        split
        case h_1 d found =>
          have zero : d = 0 := by_contra fun nonzero => here ⟨d, found, nonzero⟩
          rw [if_pos zero]
        case h_2 => rfl
      rw [next]
      exact ih (exists_later (p := fun k => ∃ d, s.pick? (grid k s.exponent) = some d ∧ d ≠ 0) h here)

/-- The power of the leading digit is not above the value, if any power that is tried is not. -/
theorem exists_leading {y tries : Nat} {e k : ℤ}
    (h : ∃ i : Nat, i < tries ∧ (10 : ℚ) ^ (k - i) ≤ y * 2 ^ e) :
    (10 : ℚ) ^ leading y e tries k ≤ y * 2 ^ e := by
  induction tries generalizing k with
  | zero =>
    obtain ⟨i, none, -⟩ := h
    exact absurd none (Nat.not_lt_zero i)
  | succ tries ih =>
    have test : (grid k e).scale ≤ y * (grid k e).unit ↔ (10 : ℚ) ^ k ≤ y * 2 ^ e := by
      have one := mul_scale_le_iff (k := k) (e := e) (y := y) (d := 1)
      rwa [Nat.one_mul, Nat.cast_one, one_mul] at one
    rw [leading]
    split
    case isTrue found => exact test.mp found
    case isFalse missed =>
      exact ih (exists_later (p := fun k => (10 : ℚ) ^ k ≤ y * 2 ^ e) h (missed ∘ test.mpr))

/-- The span of a value is wide enough for a grid of seventeen digits. -/
theorem span_bounds (nonzero : x.parts.1 ≠ 0) : x.span.low < x.span.value ∧
    x.span.value < x.span.high ∧ x.span.value < (x.span.high - x.span.low) * 10 ^ 16 := by
  have bound := x.fraction_lt
  have small : x.parts.1 < 2 ^ 53 := by
    rw [parts]
    split <;> omega
  have bottom : x.fraction = 0 ∧ 1 < x.biased → x.parts.1 = 2 ^ 52 := by
    intro h
    rw [parts, if_neg (by omega), h.1]
  show 4 * x.parts.1 - _ < 4 * x.parts.1 ∧ 4 * x.parts.1 < 4 * x.parts.1 + 2 ∧
    4 * x.parts.1 < (4 * x.parts.1 + 2 - (4 * x.parts.1 - _)) * 10 ^ 16
  split
  case isTrue h =>
    have := bottom h
    omega
  case isFalse => omega

/-- No value is so small that its leading digit would not be found. -/
theorem le_leading (nonzero : x.parts.1 ≠ 0) :
    (10 : ℚ) ^ leading x.span.value x.span.exponent 640 309 ≤ x.span.value * 2 ^ x.span.exponent := by
  refine exists_leading ⟨639, by norm_num, ?_⟩
  have least : (10 : ℚ) ^ (-330 : ℤ) ≤ 2 ^ (-1074 : ℤ) := by
    have cast : ∀ a b m n : Nat, a ^ m ≤ b ^ n → (a : ℚ) ^ m ≤ (b : ℚ) ^ n :=
      fun a b m n h => by exact_mod_cast h
    rw [zpow_neg, zpow_neg, inv_le_inv₀ (by positivity) (by positivity), zpow_ofNat, zpow_ofNat]
    exact cast 2 10 1074 330 (by decide +kernel)
  have exponent : (-1074 : ℤ) ≤ x.parts.2 := by
    rw [parts]
    split <;> omega
  have one : (1 : ℚ) ≤ x.parts.1 := by exact_mod_cast Nat.one_le_iff_ne_zero.mpr nonzero
  calc (10 : ℚ) ^ (309 - (639 : Nat) : ℤ) ≤ 2 ^ (-1074 : ℤ) := least
    _ ≤ 2 ^ x.parts.2 := zpow_le_zpow_right₀ (by norm_num) exponent
    _ ≤ x.parts.1 * 2 ^ x.parts.2 := le_mul_of_one_le_left (by positivity) one
    _ = ((4 * x.parts.1 : Nat) : ℚ) * 2 ^ (x.parts.2 - 2) := by
      rw [zpow_sub₀ (by norm_num)]
      push_cast
      ring

/-- **A grid of seventeen digits is finer than the span,** and its points begin below the value. -/
theorem grid_finer {k : ℤ} (fine : s.value < (s.high - s.low) * 10 ^ 16)
    (top : (10 : ℚ) ^ k ≤ s.value * 2 ^ s.exponent) :
    (grid (k - (16 : Nat)) s.exponent).scale <
        (s.high - s.low) * (grid (k - (16 : Nat)) s.exponent).unit ∧
      (grid (k - (16 : Nat)) s.exponent).scale ≤
        s.value * (grid (k - (16 : Nat)) s.exponent).unit := by
  have down : (10 : ℚ) ^ (k - (16 : Nat)) * 10 ^ 16 = 10 ^ k := by
    rw [zpow_sub₀ (by norm_num), zpow_natCast, div_mul_cancel₀ _ (by norm_num)]
  rw [← Nat.one_mul (grid (k - (16 : Nat)) s.exponent).scale]
  constructor
  · refine Nat.lt_of_not_le fun coarse => ?_
    rw [mul_unit_le_iff, Nat.cast_one, one_mul] at coarse
    have power : (0 : ℚ) < 2 ^ s.exponent := by positivity
    have less : (s.value : ℚ) < ((s.high - s.low : Nat) : ℚ) * 10 ^ 16 := by exact_mod_cast fine
    have wide : (s.value : ℚ) * 2 ^ s.exponent < 10 ^ k := by
      calc (s.value : ℚ) * 2 ^ s.exponent
          < ((s.high - s.low : Nat) : ℚ) * 10 ^ 16 * 2 ^ s.exponent :=
            mul_lt_mul_of_pos_right less power
        _ = ((s.high - s.low : Nat) : ℚ) * 2 ^ s.exponent * 10 ^ 16 := by ring
        _ ≤ 10 ^ (k - (16 : Nat)) * 10 ^ 16 := mul_le_mul_of_nonneg_right coarse (by norm_num)
        _ = 10 ^ k := down
    exact absurd top (not_le.mpr wide)
  · rw [mul_scale_le_iff, Nat.cast_one, one_mul]
    have positive : (0 : ℚ) < 10 ^ (k - (16 : Nat)) := by positivity
    linarith

/-- **Some grid of at most seventeen digits has a point in the span.** -/
theorem exists_shortest (hx : x.parts.1 ≠ 0) : ∃ d k,
    x.span.shortest? 17 (leading x.span.value x.span.exponent 640 309) = some (d, k) ∧ d ≠ 0 ∧
      RoundsTo (d * 10 ^ k) x.place := by
  obtain ⟨below, above, fine⟩ := span_bounds hx
  obtain ⟨steps, step⟩ := grid_finer fine (le_leading hx)
  have unit := grid_unit_pos (leading x.span.value x.span.exponent 640 309 - (16 : Nat)) x.span.exponent
  have scale := grid_scale_pos (leading x.span.value x.span.exponent 640 309 - (16 : Nat)) x.span.exponent
  obtain ⟨d, picked, large⟩ := Span.exists_pick? below above unit scale steps
  have positive : d ≠ 0 := Nat.ne_of_gt (Nat.lt_of_lt_of_le (Nat.div_pos step scale) large)
  have last : ∃ i : Nat, i < 17 ∧ ∃ d, x.span.pick? (grid (_ - i) x.span.exponent) = some d ∧ d ≠ 0 :=
    ⟨16, by norm_num, d, picked, positive⟩
  obtain ⟨d, k, found, nonzero, picked⟩ := Span.exists_shortest? last
  exact ⟨d, k, found, nonzero, (reaches_span hx).roundsTo (Span.holds_of_pick? picked)⟩

/-! ## Digits -/

/-- Digits of which the first is not zero. -/
structure IsLed (digits : List Char) : Prop where
  nonempty : digits ≠ []
  digit : ∀ c ∈ digits, c.isDigit = true
  first : digits.head? ≠ some '0'

theorem isLed_decimal {n : Nat} (h : n ≠ 0) : IsLed (decimal n) :=
  ⟨decimal_ne_nil n, fun _ => isDigit_of_mem_decimal, fun zero => h (eq_zero_of_head_decimal zero)⟩

/-- **Zeros at the end** are what the exponent grows by. -/
theorem isLed_dropZeros {digits : List Char} (led : IsLed digits) (k : ℤ) :
    IsLed (dropZeros digits k).1 ∧
      (Nat.ofDigitChars 10 (dropZeros digits k).1 0 : ℚ) * 10 ^ (dropZeros digits k).2 =
        Nat.ofDigitChars 10 digits 0 * 10 ^ k := by
  have shape : dropZeros digits k = (digits.rdropWhile (· == '0'),
    k + (digits.length - (digits.rdropWhile (· == '0')).length : Nat)) := rfl
  rw [shape]
  set kept := digits.rdropWhile (· == '0')
  set count := digits.length - kept.length with hcount
  obtain ⟨zeros, split⟩ : ∃ zeros, kept ++ zeros = digits ∧ ∀ c ∈ zeros, c = '0' :=
    ⟨_, List.rdropWhile_append_rtakeWhile, fun c hc =>
      eq_of_beq (List.mem_rtakeWhile_imp (p := (· == '0')) hc)⟩
  obtain rfl : zeros = List.replicate count '0' := by
    rw [List.eq_replicate_iff, hcount, ← split.1, List.length_append]
    exact ⟨by omega, split.2⟩
  have whole := split.1
  have nonempty : kept ≠ [] := by
    intro none
    rw [none, List.nil_append] at whole
    obtain ⟨given, -, first⟩ := led
    rw [← whole] at given first
    cases hc : count with
    | zero => rw [hc] at given; exact given rfl
    | succ n => rw [hc] at first; exact first rfl
  refine ⟨⟨nonempty, ?_, ?_⟩, ?_⟩
  · exact fun c hc => led.digit c (whole ▸ List.mem_append_left _ hc)
  · rw [← List.head?_append_of_ne_nil kept nonempty, whole]
    exact led.first
  · rw [← whole, Nat.ofDigitChars_append, Nat.ofDigitChars_replicate_zero, zpow_add₀ (by norm_num),
      zpow_natCast]
    push_cast
    ring

/-- **The digits of a value** are led and round to it. -/
theorem shortestDigits_roundsTo (nonzero : x.parts.1 ≠ 0) : IsLed x.shortestDigits.1 ∧
    RoundsTo (Nat.ofDigitChars 10 x.shortestDigits.1 0 * 10 ^ x.shortestDigits.2) x.place := by
  obtain ⟨d, k, found, nonzero, rounds⟩ := exists_shortest nonzero
  have digits : x.shortestDigits = dropZeros (decimal d) k := by
    simp only [shortestDigits, found]
  obtain ⟨led, value⟩ := isLed_dropZeros (isLed_decimal nonzero) k
  rw [digits, value, decimal, Nat.ofDigitChars_ten_toDigits]
  exact ⟨led, rounds⟩

/-! ## Text -/

end Binary64

/-- **A decimal** in its parts: the digits before the point, those behind it, and an exponent. -/
structure Decimal where
  whole : List Char
  fraction : List Char
  exponent : ℤ

namespace Decimal

/-- The number that a decimal stands for. -/
def value (d : Decimal) : ℚ :=
  Nat.ofDigitChars 10 (d.whole ++ d.fraction) 0 * 10 ^ (d.exponent - d.fraction.length)

/-- The text of a decimal. A part that is not there is left out, and an exponent has its sign. -/
def text (d : Decimal) : List Char :=
  d.whole ++ (if d.fraction = [] then [] else '.' :: d.fraction) ++
    if d.exponent = 0 then []
    else 'e' :: ((if d.exponent < 0 then [] else ['+']) ++ (toString d.exponent).toList)

/-- **A decimal as a document has it:** digits only, of which the first stands alone if it is zero, and
a part that tells it from an integer. -/
structure WellFormed (d : Decimal) : Prop where
  digit : ∀ c ∈ d.whole ++ d.fraction, c.isDigit = true
  whole : d.whole ≠ []
  first : d.whole.head? = some '0' → d.whole = ['0']
  apart : d.fraction ≠ [] ∨ d.exponent ≠ 0

end Decimal

namespace Binary64

/-- **A text that spells a fraction:** its sign, and a decimal that rounds to its magnitude. -/
def SpelledBy (x : Binary64) (text : String) : Prop :=
  ∃ d : Decimal, d.WellFormed ∧ RoundsTo d.value x.place ∧
    text = String.ofList ((if 2 ^ 63 ≤ x.bits.toNat then ['-'] else []) ++ d.text)

/-- A text that writes digits at a power of ten, as a decimal. -/
def Writes (text digits : List Char) (k : ℤ) : Prop :=
  ∃ d : Decimal, d.WellFormed ∧ d.value = Nat.ofDigitChars 10 digits 0 * 10 ^ k ∧ d.text = text

theorem isDigit_of_mem_zeros {n : Nat} {c : Char} (h : c ∈ List.replicate n '0') :
    c.isDigit = true := by
  rw [List.eq_of_mem_replicate h]
  rfl

section Written

variable {digits : List Char} {k : ℤ}

/-- An integral value has zeros up to its point and one behind it. -/
theorem writes_integral (led : IsLed digits) (whole : 0 ≤ k) :
    Writes (digits ++ List.replicate k.toNat '0' ++ ['.', '0']) digits k := by
  refine ⟨⟨digits ++ List.replicate k.toNat '0', ['0'], 0⟩, ⟨?_, ?_, ?_, .inl (by simp)⟩, ?_, ?_⟩
  · intro c hc
    simp only [List.mem_append, List.mem_singleton] at hc
    rcases hc with (hc | hc) | rfl
    · exact led.digit c hc
    · exact isDigit_of_mem_zeros hc
    · rfl
  · simp [led.nonempty]
  · rw [List.head?_append_of_ne_nil _ led.nonempty]
    exact fun first => absurd first led.first
  · have power : (10 : ℚ) ^ k = 10 ^ k.toNat := by
      rw [← zpow_natCast, Int.toNat_of_nonneg whole]
    rw [Decimal.value, Nat.ofDigitChars_append, Nat.ofDigitChars_append,
      Nat.ofDigitChars_replicate_zero, power]
    norm_num [Nat.ofDigitChars]
    ring
  · simp [Decimal.text]

/-- A point stands among the digits behind the first ones. -/
theorem writes_mixed (led : IsLed digits) {front : Nat} (leads : 0 < front)
    (count : (front : ℤ) = k + digits.length) (less : front < digits.length) :
    Writes (digits.take front ++ '.' :: digits.drop front) digits k := by
  have tail : ((digits.drop front).length : ℤ) = -k := by
    rw [List.length_drop]
    omega
  have behind : digits.drop front ≠ [] := by
    intro none
    rw [none, List.length_nil] at tail
    omega
  refine ⟨⟨digits.take front, digits.drop front, 0⟩, ⟨?_, ?_, ?_, .inl behind⟩, ?_, ?_⟩
  · rw [List.take_append_drop]
    exact led.digit
  · exact List.ne_nil_of_length_pos (by rw [List.length_take]; omega)
  · rw [List.head?_take, if_neg (by omega)]
    exact fun first => absurd first led.first
  · rw [Decimal.value, List.take_append_drop, tail, sub_neg_eq_add, zero_add]
  · rw [Decimal.text, if_neg behind, if_pos rfl, List.append_nil]

/-- A value below one has zeros between its point and its digits. -/
theorem writes_small (led : IsLed digits) {zeros : Nat}
    (count : ((zeros + digits.length : Nat) : ℤ) = -k) :
    Writes ('0' :: '.' :: List.replicate zeros '0' ++ digits) digits k := by
  refine ⟨⟨['0'], List.replicate zeros '0' ++ digits, 0⟩,
    ⟨?_, by simp, fun _ => rfl, .inl (by simp [led.nonempty])⟩, ?_, ?_⟩
  · intro c hc
    simp only [List.mem_append, List.mem_singleton] at hc
    rcases hc with rfl | hc | hc
    · rfl
    · exact isDigit_of_mem_zeros hc
    · exact led.digit c hc
  · rw [Decimal.value, Nat.ofDigitChars_append, Nat.ofDigitChars_append,
      Nat.ofDigitChars_replicate_zero, List.length_append, List.length_replicate, count,
      sub_neg_eq_add, zero_add]
    rfl
  · simp [Decimal.text, led.nonempty]

theorem writes_positional (led : IsLed digits) : Writes (positional digits k) digits k := by
  have given : 0 < digits.length := List.length_pos_iff.mpr led.nonempty
  rw [positional]
  split_ifs with whole point
  · exact writes_integral led whole
  · exact writes_mixed led (Nat.succ_pos _) (by omega) (by omega)
  · exact writes_small led (by omega)

/-- An exponent is written with its sign. -/
theorem toList_exponent (z : ℤ) : (if z < 0 then [] else ['+']) ++ (toString z).toList =
    (if z < 0 then '-' else '+') :: decimal z.natAbs := by
  cases z with
  | ofNat n =>
    have nonneg : ¬Int.ofNat n < 0 := by simp
    have text : toString (Int.ofNat n) = String.ofList (decimal n) := rfl
    rw [if_neg nonneg, if_neg nonneg, text, String.toList_ofList]
    rfl
  | negSucc n =>
    have text : toString (Int.negSucc n) = "-" ++ String.ofList (decimal (n + 1)) := rfl
    rw [if_pos (Int.negSucc_lt_zero n), if_pos (Int.negSucc_lt_zero n), text, String.toList_append]
    show '-' :: (String.ofList (decimal (n + 1))).toList = _
    rw [String.toList_ofList]
    rfl

theorem writes_scientific (led : IsLed digits) (far : k + digits.length - 1 ≠ 0) :
    Writes (scientific digits k) digits k := by
  obtain ⟨first, rest, rfl⟩ := List.exists_cons_of_ne_nil led.nonempty
  refine ⟨⟨[first], rest, k + (first :: rest).length - 1⟩, ⟨led.digit, by simp, ?_, .inr far⟩, ?_, ?_⟩
  · exact fun zero => absurd zero led.first
  · have exponent : k + ((first :: rest).length : ℤ) - 1 - rest.length = k := by
      rw [List.length_cons]
      push_cast
      ring
    rw [Decimal.value, exponent]
    rfl
  · rw [Decimal.text, if_neg far, toList_exponent]
    cases rest <;> rfl

/-- Either way of writing them is a decimal. -/
theorem writes_layout (led : IsLed digits) : Writes
    (if documentLayout.leastPositional ≤ k + digits.length - 1 ∧
        k + digits.length - 1 ≤ documentLayout.greatestPositional then positional digits k
      else scientific digits k) digits k := by
  split
  case isTrue => exact writes_positional led
  case isFalse outside =>
    refine writes_scientific led fun lead => outside ?_
    rw [lead]
    decide

end Written

/-- **A fraction is spelled by the text that it is written as.** -/
theorem spelledBy_render (x : Binary64) : x.SpelledBy x.render := by
  have sign : ∀ cs : List Char, String.ofList (if x.isNegative then '-' :: cs else cs) =
      String.ofList ((if 2 ^ 63 ≤ x.bits.toNat then ['-'] else []) ++ cs) := by
    intro cs
    have negative : x.isNegative = true ↔ 2 ^ 63 ≤ x.bits.toNat := by
      have bound := x.bits.toNat_lt
      rw [isNegative, beq_iff_eq]
      omega
    rw [if_congr negative rfl rfl]
    split <;> rfl
  by_cases zero : x.parts.1 = 0
  · have place : x.place = 0 := by
      rw [parts] at zero
      rw [place_eq]
      split at zero <;> omega
    have value : Decimal.value ⟨['0'], ['0'], 0⟩ = 0 := by norm_num [Decimal.value, Nat.ofDigitChars]
    refine ⟨⟨['0'], ['0'], 0⟩, ⟨by simp, by simp, fun _ => rfl, .inl (by simp)⟩, ?_, ?_⟩
    · have least : magnitude 0 = 0 := by norm_num [magnitude]
      have next : 0 ≤ magnitude 1 := by
        rw [magnitude_of_le (by norm_num)]
        positivity
      rw [place, value]
      refine ⟨by rw [least]; norm_num, ?_, by omega⟩
      rw [least, zero_add]
      exact div_nonneg next (by norm_num)
    · rw [← sign]
      simp only [render, renderIn, if_pos zero]
      rfl
  · obtain ⟨led, rounds⟩ := shortestDigits_roundsTo zero
    obtain ⟨d, wellFormed, value, text⟩ := writes_layout led (k := x.shortestDigits.2)
    refine ⟨d, wellFormed, value ▸ rounds, ?_⟩
    rw [← sign, text]
    simp only [render, renderIn, if_neg zero]

end Binary64

end TransferLedger.Number
