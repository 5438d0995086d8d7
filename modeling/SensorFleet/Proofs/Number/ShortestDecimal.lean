import SensorFleet.Number.Shortest
import SensorFleet.Proofs.Number.Scaling

/-!
The decimal that is written for a double. It lies in the interval of the reals that round to the
double, for the finest of the grids that are tried always has a multiple there, and its digits as a
whole number have less than 64 bits.
-/
namespace SensorFleet.Binary64

open Json.Numeral (units)

theorem zpow_toNat {base : Nat} (pos : 0 < base) (p : Int) :
    (base : ℚ) ^ p = (base ^ p.toNat : Nat) / (base ^ (-p).toNat : Nat) := by
  rw [Nat.cast_pow, Nat.cast_pow, ← zpow_natCast, ← zpow_natCast,
    ← zpow_sub₀ (Nat.cast_ne_zero.mpr (Nat.ne_of_gt pos))]
  congr 1
  omega

/-! ### The interval of a double -/

section Spread
variable {x : Binary64}

theorem significand_pos (h : x.isZero = false) : 0 < x.significand := by
  have positive := value_pos h
  rw [value, grid_magnitudeBits] at positive
  refine Nat.pos_of_ne_zero fun zero => ?_
  simp [zero] at positive

theorem significand_even (x : Binary64) : x.significand % 2 = x.magnitudeBits % 2 := by
  unfold significand leadingBit
  split <;> omega

/-- At a power of two, unless it is subnormal or the least normal one. -/
theorem significand_turn (x : Binary64) :
    x.magnitudeBits % leadingBit = 0 ∧ 1 < x.magnitudeBits / leadingBit ↔
      x.significand = leadingBit ∧ 1 < x.exponentField := by
  unfold significand exponentField
  constructor
  · rintro ⟨whole, normal⟩
    rw [if_neg (by omega), whole]
    exact ⟨Nat.zero_add _, normal⟩
  · rintro ⟨least, normal⟩
    rw [if_neg (by omega)] at least
    exact ⟨by omega, normal⟩

/-- What the interval counts in, a quarter of the significand's unit. -/
theorem interval_quarters (x : Binary64) : ∃ up : Nat,
    x.interval.low = (4 * x.significand -
      if x.significand = leadingBit ∧ 1 < x.exponentField then 1 else 2) * up ∧
    x.interval.value = 4 * x.significand * up ∧ x.interval.high = (4 * x.significand + 2) * up ∧
    (up / x.interval.den : ℚ) * (4 * perOne) = gridUnit x.magnitudeBits := by
  refine ⟨if 0 ≤ x.scale - 2 then 1 <<< (x.scale - 2).toNat else 1, rfl, rfl, rfl, ?_⟩
  have ratio : (((if 0 ≤ x.scale - 2 then 1 <<< (x.scale - 2).toNat else 1 : Nat) : ℚ) /
      x.interval.den) = 2 ^ (x.scale - 2) := by
    have shifted := shift_ratio 1 1 (x.scale - 2)
    rw [Nat.cast_one, div_one, one_mul] at shifted
    rw [← shifted, shift, interval]
    dsimp only
    split <;> rfl
  have quarter : (2 : ℚ) ^ (x.scale - 2) = 2 ^ x.scale / 4 := by
    rw [zpow_sub₀ two_ne_zero]
    norm_num
  rw [ratio, quarter, two_zpow_scale, ← mul_assoc, div_mul_cancel₀ _ four_ne_zero,
    div_mul_cancel₀ _ perOne_pos.ne']

theorem interval_den_pos (x : Binary64) : 0 < x.interval.den := by
  rw [interval]
  dsimp only
  split
  · exact Nat.one_pos
  · rw [Nat.shiftLeft_eq, Nat.one_mul]
    exact Nat.pow_pos (by decide)

theorem interval_value (x : Binary64) :
    (x.interval.value / x.interval.den : ℚ) * perOne = grid x.magnitudeBits := by
  obtain ⟨up, _, value, _, unit⟩ := interval_quarters x
  rw [grid_magnitudeBits, value]
  push_cast
  rw [← unit]
  ring

theorem interval_high (x : Binary64) : (x.interval.high / x.interval.den : ℚ) * (2 * perOne) =
    grid x.magnitudeBits + grid (x.magnitudeBits + 1) := by
  obtain ⟨up, _, _, high, unit⟩ := interval_quarters x
  rw [grid_succ, grid_magnitudeBits, high]
  push_cast
  rw [← unit]
  ring

theorem interval_low (h : x.isZero = false) : (x.interval.low / x.interval.den : ℚ) * (2 * perOne) =
    grid (x.magnitudeBits - 1) + grid x.magnitudeBits := by
  obtain ⟨up, low, _, _, unit⟩ := interval_quarters x
  have least := significand_pos h
  have some : 0 < x.magnitudeBits := Nat.pos_of_ne_zero fun zero => by simp [isZero, zero] at h
  obtain ⟨m, succ⟩ := Nat.exists_eq_succ_of_ne_zero (Nat.ne_of_gt some)
  have next : grid x.magnitudeBits = grid (x.magnitudeBits - 1) + gridUnit (x.magnitudeBits - 1) := by
    rw [succ, Nat.succ_eq_add_one, Nat.add_sub_cancel, grid_succ]
  have prior := gridUnit_prior some
  have here := grid_magnitudeBits x
  simp only [significand_turn] at prior
  have nextQ : (grid x.magnitudeBits : ℚ) =
    grid (x.magnitudeBits - 1) + gridUnit (x.magnitudeBits - 1) := by exact_mod_cast next
  have hereQ : (grid x.magnitudeBits : ℚ) = x.significand * (up / x.interval.den * (4 * perOne)) := by
    rw [unit]
    exact_mod_cast here
  by_cases turn : x.significand = leadingBit ∧ 1 < x.exponentField
  · rw [if_pos turn] at prior low
    have priorQ : (gridUnit x.magnitudeBits : ℚ) = 2 * gridUnit (x.magnitudeBits - 1) := by
      exact_mod_cast prior
    rw [← unit] at priorQ
    rw [low, Nat.cast_mul, Nat.cast_sub (by omega), mul_div_assoc]
    push_cast
    linarith
  · rw [if_neg turn] at prior low
    have priorQ : (gridUnit x.magnitudeBits : ℚ) = 1 * gridUnit (x.magnitudeBits - 1) := by
      exact_mod_cast prior
    rw [← unit] at priorQ
    rw [low, Nat.cast_mul, Nat.cast_sub (by omega), mul_div_assoc]
    push_cast
    linarith

end Spread

namespace Interval
variable {i : Interval} {p : Int} {d : Decimal}

structure Contains (i : Interval) (r : ℚ) : Prop where
  lower : (i.low / i.den : ℚ) ≤ r
  upper : r ≤ (i.high / i.den : ℚ)
  tie : r = (i.low / i.den : ℚ) ∨ r = (i.high / i.den : ℚ) → i.closed = true

theorem ten_zpow (p : Int) : (10 : ℚ) ^ p =
    (if 0 ≤ p then Nat.pow 10 p.toNat else 1 : Nat) / (if 0 ≤ p then 1 else Nat.pow 10 (-p).toNat : Nat) := by
  have whole : (10 : ℚ) ^ p = _ := zpow_toNat (show 0 < 10 by decide) p
  rw [whole]
  split
  next up => rw [Int.toNat_of_nonpos (by omega : -p ≤ 0), Nat.pow_zero, Nat.pow_eq]
  next down => rw [Int.toNat_of_nonpos (by omega : p ≤ 0), Nat.pow_zero, Nat.pow_eq]

/-- The interval as it is seen on a grid, whose step is `step / up` over the denominator. -/
structure Scaled (i : Interval) (p : Int) (up step : Nat) : Prop where
  pos : 0 < i.den
  up_pos : 0 < up
  step_eq : (step : ℚ) = i.den * up * 10 ^ p

namespace Scaled
variable {up step : Nat} (s : Scaled i p up step)
include s

theorem step_pos : 0 < step := by
  have pos : (0 : ℚ) < step := by
    rw [s.step_eq]
    exact mul_pos (mul_pos (Nat.cast_pos.mpr s.pos) (Nat.cast_pos.mpr s.up_pos))
      (zpow_pos (by norm_num) p)
  exact Nat.cast_pos.mp pos

theorem le_iff (a n : Nat) : a * up ≤ n * step ↔ (a / i.den : ℚ) ≤ n * 10 ^ p := by
  have den : (0 : ℚ) < i.den := Nat.cast_pos.mpr s.pos
  have up' : (0 : ℚ) < up := Nat.cast_pos.mpr s.up_pos
  rw [div_le_iff₀ den, ← @Nat.cast_le ℚ, Nat.cast_mul, Nat.cast_mul, s.step_eq]
  have same : (n * (i.den * up * 10 ^ p) : ℚ) = n * 10 ^ p * i.den * up := by ring
  rw [same, mul_le_mul_iff_left₀ up']

theorem ge_iff (a n : Nat) : n * step ≤ a * up ↔ n * 10 ^ p ≤ (a / i.den : ℚ) := by
  have den : (0 : ℚ) < i.den := Nat.cast_pos.mpr s.pos
  have up' : (0 : ℚ) < up := Nat.cast_pos.mpr s.up_pos
  rw [le_div_iff₀ den, ← @Nat.cast_le ℚ, Nat.cast_mul, Nat.cast_mul, s.step_eq]
  have same : (n * (i.den * up * 10 ^ p) : ℚ) = n * 10 ^ p * i.den * up := by ring
  rw [same, mul_le_mul_iff_left₀ up']

theorem holds_iff (n : Nat) :
    holds ⟨i.low * up, i.value * up, i.high * up, step, i.closed⟩ (n * step) = true ↔
      i.Contains (n * 10 ^ p) := by
  have low := s.le_iff i.low n
  have low' := s.ge_iff i.low n
  have high := s.ge_iff i.high n
  have high' := s.le_iff i.high n
  unfold holds
  dsimp only
  split
  next closed =>
    rw [Bool.and_eq_true, decide_eq_true_eq, decide_eq_true_eq, low, high]
    exact ⟨fun h => ⟨h.1, h.2, fun _ => closed⟩, fun h => ⟨h.lower, h.upper⟩⟩
  next opened =>
    rw [Bool.and_eq_true, decide_eq_true_eq, decide_eq_true_eq, ← not_le, ← not_le, low', high',
      not_le, not_le]
    constructor
    · rintro ⟨above, below⟩
      exact ⟨above.le, below.le, fun h => absurd h (by rintro (h | h) <;> linarith)⟩
    · intro h
      exact ⟨lt_of_le_of_ne h.lower fun same => opened (h.tie (.inl same.symm)),
        lt_of_le_of_ne h.upper fun same => opened (h.tie (.inr same))⟩

theorem ratio (a : Nat) : ((a * up : Nat) / step : ℚ) = a / i.den / 10 ^ p := by
  have den : (i.den : ℚ) ≠ 0 := Nat.cast_ne_zero.mpr (Nat.ne_of_gt s.pos)
  have up' : (up : ℚ) ≠ 0 := Nat.cast_ne_zero.mpr (Nat.ne_of_gt s.up_pos)
  have ten : (10 : ℚ) ^ p ≠ 0 := zpow_ne_zero p (by norm_num)
  rw [s.step_eq, Nat.cast_mul]
  field_simp

end Scaled

theorem scaled (pos : 0 < i.den) (p : Int) :
    Scaled i p (if 0 ≤ p then 1 else Nat.pow 10 (-p).toNat)
      (i.den * (if 0 ≤ p then Nat.pow 10 p.toNat else 1)) := by
  have up_pos : 0 < (if 0 ≤ p then 1 else Nat.pow 10 (-p).toNat) := by
    split
    · exact Nat.one_pos
    · exact Nat.pow_pos (by decide)
  refine ⟨pos, up_pos, ?_⟩
  rw [ten_zpow, mul_assoc, mul_div_cancel₀ _ (Nat.cast_ne_zero.mpr (Nat.ne_of_gt up_pos)),
    Nat.cast_mul]

/-- A decimal that is found on a grid. -/
theorem onGrid_spec (pos : 0 < i.den) (h : i.onGrid p = some d) :
    d.exponent = p ∧ 0 < d.digits ∧ i.Contains (d.digits * 10 ^ p) ∧
      (d.digits : ℚ) ≤ i.value / i.den / 10 ^ p + 1 := by
  have grid := scaled pos p
  unfold onGrid at h
  dsimp only at h
  generalize (if 0 ≤ p then 1 else Nat.pow 10 (-p).toNat) = up at grid h
  generalize i.den * (if 0 ≤ p then Nat.pow 10 p.toNat else 1) = step at grid h
  have stepQ : (0 : ℚ) < step := Nat.cast_pos.mpr grid.step_pos
  have size {n : Nat} (near : n * step ≤ i.value * up + step) :
      (n : ℚ) ≤ i.value / i.den / 10 ^ p + 1 := by
    rw [← grid.ratio, div_add_one stepQ.ne', le_div_iff₀ stepQ]
    exact_mod_cast near
  obtain ⟨nearSize, _, _⟩ := roundHalfEven_spec (i.value * up) grid.step_pos
  have otherSize : (if roundHalfEven (i.value * up) step = i.value * up / step then
      i.value * up / step + 1 else i.value * up / step) * step ≤ i.value * up + step := by
    have floor := Nat.div_mul_le_self (i.value * up) step
    have next : (i.value * up / step + 1) * step = i.value * up / step * step + step :=
      Nat.succ_mul _ _
    split <;> omega
  generalize (if roundHalfEven (i.value * up) step = i.value * up / step then
    i.value * up / step + 1 else i.value * up / step) = other at h otherSize
  generalize roundHalfEven (i.value * up) step = near at h nearSize
  split at h
  next found =>
    obtain rfl := Option.some.inj h
    rw [Bool.and_eq_true, grid.holds_iff] at found
    have positive := Nat.pos_of_ne_zero (of_decide_eq_true found.1)
    exact ⟨rfl, positive, found.2, size (by omega : near * step ≤ _)⟩
  next =>
    split at h
    next found =>
      obtain rfl := Option.some.inj h
      rw [Bool.and_eq_true, grid.holds_iff] at found
      have positive := Nat.pos_of_ne_zero (of_decide_eq_true found.1)
      exact ⟨rfl, positive, found.2, size otherSize⟩
    next => cases h

/-- A grid whose step is less than the interval's width on either side has a multiple there. -/
theorem onGrid_isSome (pos : 0 < i.den) (least : (10 : ℚ) ^ p ≤ i.value / i.den)
    (below : (10 : ℚ) ^ p < 2 * (i.value / i.den - i.low / i.den))
    (above : (10 : ℚ) ^ p < 2 * (i.high / i.den - i.value / i.den)) : (i.onGrid p).isSome := by
  have grid := scaled pos p
  unfold onGrid
  dsimp only
  generalize (if 0 ≤ p then 1 else Nat.pow 10 (-p).toNat) = up at grid ⊢
  generalize i.den * (if 0 ≤ p then Nat.pow 10 p.toNat else 1) = step at grid ⊢
  obtain ⟨lower, upper, _⟩ := roundHalfEven_near (i.value * up) grid.step_pos
  have ten : (0 : ℚ) < 10 ^ p := zpow_pos (by norm_num) p
  rw [grid.ratio] at lower upper
  generalize roundHalfEven (i.value * up) step = near at lower upper ⊢
  have lower' := mul_le_mul_of_nonneg_right lower ten.le
  have upper' := mul_le_mul_of_nonneg_right upper ten.le
  rw [mul_assoc, div_mul_cancel₀ _ ten.ne'] at lower' upper'
  have inside : i.Contains (near * 10 ^ p) := by
    refine ⟨by linarith, by linarith, fun h => ?_⟩
    rcases h with h | h <;> linarith
  have some : near ≠ 0 := by
    rintro rfl
    rw [Nat.cast_zero] at upper'
    linarith
  rw [if_pos]
  · rfl
  · rw [Bool.and_eq_true, grid.holds_iff]
    exact ⟨by simpa using some, inside⟩

/-- A search finds what one of its grids has. -/
theorem search_spec {top : Int} {k : Nat} (h : i.search top k = some d) :
    ∃ j < k, i.onGrid (top - j) = some d := by
  induction k with
  | zero => cases h
  | succ k ih =>
    rw [search] at h
    cases coarser : i.search top k with
    | some found =>
      rw [coarser, Option.orElse_some] at h
      obtain ⟨j, lt, hj⟩ := ih (coarser.trans h)
      exact ⟨j, Nat.lt_succ_of_lt lt, hj⟩
    | none =>
      rw [coarser, Option.orElse_none] at h
      exact ⟨k, Nat.lt_succ_self k, h⟩

theorem search_isSome {top : Int} {k : Nat} (h : (i.onGrid (top - k)).isSome) :
    (i.search top (k + 1)).isSome := by
  rw [search]
  cases i.search top k with
  | some found => rfl
  | none => exact h

/-- The guess of a power of ten, from the number of bits, is off by less than three. All numbers of
bits of a finite number are tried. -/
theorem decade_guess : ∀ n : Nat, n < 2200 →
    let bits : Int := (n : Int) - 1100
    let guess := bits * 30103 / 100000 - 1
    10 ^ guess.toNat * 2 ^ (-(bits - 1)).toNat ≤ 2 ^ (bits - 1).toNat * 10 ^ (-guess).toNat ∧
      2 ^ (bits + 1).toNat * 10 ^ (-(guess + 3)).toNat <
        10 ^ (guess + 3).toNat * 2 ^ (-(bits + 1)).toNat := by
  decide +kernel

theorem atMost_iff (pos : 0 < i.den) (p : Int) :
    (if 0 ≤ p then decide (i.den * Nat.pow 10 p.toNat ≤ i.value)
      else decide (i.den ≤ i.value * Nat.pow 10 (-p).toNat)) = true ↔
      (10 : ℚ) ^ p ≤ i.value / i.den := by
  have grid := scaled pos p
  have level := grid.ge_iff i.value 1
  rw [Nat.one_mul, Nat.cast_one, one_mul] at level
  rw [← level]
  split
  · rw [decide_eq_true_eq, Nat.mul_one]
  · rw [decide_eq_true_eq, Nat.mul_one]

/-- The decade of a fraction of whose bits the guess is known to be good. -/
theorem decade_spec {n : Nat} (pos : 0 < i.den) (some : 0 < i.value) (small : n < 2200)
    (logs : (i.value.log2 : Int) - i.den.log2 = n - 1100) :
    (10 : ℚ) ^ i.decade ≤ i.value / i.den ∧ (i.value / i.den : ℚ) < 10 ^ (i.decade + 1) := by
  obtain ⟨above, below⟩ := ratio_between_logs some pos
  obtain ⟨least, most⟩ := decade_guess n small
  unfold decade
  dsimp only at least most ⊢
  simp only [atMost_iff pos]
  rw [logs] at above below ⊢
  generalize ((n : Int) - 1100) = bits at above below least most ⊢
  generalize bits * 30103 / 100000 - 1 = guess at least most ⊢
  have two := zpow_toNat (show 0 < 2 by decide)
  have ten := zpow_toNat (show 0 < 10 by decide)
  have positive {base : Nat} (h : 0 < base) (k : Nat) : (0 : ℚ) < (base ^ k : Nat) :=
    Nat.cast_pos.mpr (Nat.pow_pos h)
  have lower : (10 : ℚ) ^ guess ≤ i.value / i.den := by
    refine le_trans ?_ above.le
    have cross : ((10 : Nat) : ℚ) ^ guess ≤ ((2 : Nat) : ℚ) ^ (bits - 1) := by
      rw [two, ten, div_le_div_iff₀ (positive (by decide) _) (positive (by decide) _)]
      exact_mod_cast least
    exact cross
  have upper : (i.value / i.den : ℚ) < 10 ^ (guess + 2 + 1) := by
    refine lt_trans below ?_
    have cross : ((2 : Nat) : ℚ) ^ (bits + 1) < ((10 : Nat) : ℚ) ^ (guess + 3) := by
      rw [two, ten, div_lt_div_iff₀ (positive (by decide) _) (positive (by decide) _)]
      exact_mod_cast most
    rw [add_assoc]
    exact cross
  split
  next second => exact ⟨second, upper⟩
  next noSecond =>
    have upper := not_le.mp noSecond
    split
    next first => exact ⟨first, by rwa [add_assoc]⟩
    next noFirst => exact ⟨lower, not_le.mp noFirst⟩

end Interval

/-! ### The decimal that is found -/

section Shortest
variable {x : Binary64}

theorem rounds_of_contains (h : x.isZero = false) {r : ℚ} (inside : x.interval.Contains r) :
    Rounds x.magnitudeBits (r * perOne) := by
  have twice : (0 : ℚ) < 2 * perOne := mul_pos two_pos perOne_pos
  have low := interval_low h
  have high := interval_high x
  have regroup : 2 * (r * perOne) = r * (2 * perOne) := by ring
  refine ⟨?_, ?_, fun h => ?_⟩
  · rw [← low, regroup]
    exact mul_le_mul_of_nonneg_right inside.lower twice.le
  · rw [← high, regroup]
    exact mul_le_mul_of_nonneg_right inside.upper twice.le
  · rw [← low, ← high, regroup, mul_left_inj' twice.ne', mul_left_inj' twice.ne'] at h
    rw [← significand_even]
    exact of_decide_eq_true (inside.tie h)

theorem decade_of_finite (h : x.isZero = false) (finite : x.isFinite) :
    (10 : ℚ) ^ x.interval.decade ≤ x.interval.value / x.interval.den ∧
      (x.interval.value / x.interval.den : ℚ) < 10 ^ (x.interval.decade + 1) := by
  have value := interval_value x
  have pos := x.interval_den_pos
  have some : 0 < x.magnitudeBits := Nat.pos_of_ne_zero fun zero => by simp [isZero, zero] at h
  have below : x.magnitudeBits ≤ infinityBits - 1 := Nat.le_pred_of_lt (of_decide_eq_true finite)
  have least : (1 : ℚ) ≤ grid x.magnitudeBits := Nat.one_le_cast.mpr (grid_strictMono some)
  have most : (grid x.magnitudeBits : ℚ) ≤ largest * perOne :=
    grid_last ▸ Nat.cast_le.mpr (grid_le below)
  have positive : 0 < x.interval.value := by
    refine Nat.pos_of_ne_zero fun zero => ?_
    rw [zero, Nat.cast_zero, zero_div, zero_mul] at value
    linarith
  obtain ⟨above, under⟩ := ratio_between_logs positive pos
  rw [← value] at least most
  have first : (x.interval.value.log2 : Int) - x.interval.den.log2 - 1 < 1024 := by
    have bound : (largest : ℚ) < (2 ^ 1024 : Nat) := Nat.cast_lt.mpr (by decide +kernel)
    have size := (le_of_mul_le_mul_right most perOne_pos).trans_lt bound
    rw [Nat.cast_pow, Nat.cast_ofNat, ← zpow_natCast] at size
    exact (zpow_lt_zpow_iff_right₀ one_lt_two).mp (above.trans size)
  have second : (-1074 : Int) < x.interval.value.log2 - x.interval.den.log2 + 1 := by
    have size : (2 : ℚ) ^ (-1074 : Int) ≤ x.interval.value / x.interval.den := by
      rw [zpow_neg, inv_le_iff_one_le_mul₀ (zpow_pos two_pos _)]
      exact least
    exact (zpow_lt_zpow_iff_right₀ one_lt_two).mp (size.trans_lt under)
  obtain ⟨n, bits⟩ := Int.eq_ofNat_of_zero_le
    (show 0 ≤ (x.interval.value.log2 : Int) - x.interval.den.log2 + 1100 by omega)
  exact Interval.decade_spec (n := n) pos positive (by omega) (by omega)

/-- The finest of the grids has a multiple in the interval. -/
theorem search_isSome_of_finite (h : x.isZero = false) (finite : x.isFinite) :
    (x.interval.search x.interval.decade 17).isSome := by
  obtain ⟨decade, _⟩ := decade_of_finite h finite
  have value := interval_value x
  have low := interval_low h
  have high := interval_high x
  have some : 0 < x.magnitudeBits := Nat.pos_of_ne_zero fun zero => by simp [isZero, zero] at h
  obtain ⟨m, succ⟩ := Nat.exists_eq_succ_of_ne_zero (Nat.ne_of_gt some)
  rw [succ, Nat.succ_eq_add_one] at value high low
  rw [Nat.add_sub_cancel] at low
  have unit : (grid (m + 1) : ℚ) = grid m + gridUnit m := by exact_mod_cast grid_succ m
  have unit' : (grid (m + 1 + 1) : ℚ) = grid (m + 1) + gridUnit (m + 1) := by
    exact_mod_cast grid_succ (m + 1)
  have mono : (gridUnit m : ℚ) ≤ gridUnit (m + 1) := Nat.cast_le.mpr (gridUnit_mono (Nat.le_succ m))
  have most : (grid (m + 1) : ℚ) ≤ 2 * leadingBit * gridUnit m := by exact_mod_cast grid_succ_le m
  have positive : (0 : ℚ) < gridUnit m := Nat.cast_pos.mpr (gridUnit_pos m)
  have split : (10 : ℚ) ^ x.interval.decade =
      10 ^ (x.interval.decade - (16 : Nat)) * 10 ^ 16 := by
    rw [← zpow_natCast, ← zpow_add₀ (by norm_num)]
    congr 1
    omega
  rw [split] at decade
  have ten : (0 : ℚ) < 10 ^ (x.interval.decade - (16 : Nat)) := zpow_pos (by norm_num) _
  apply Interval.search_isSome
  generalize hp : x.interval.decade - ((16 : Nat) : Int) = p at decade ten ⊢
  -- A step of that grid is less than the unit below the double, which has 53 bits only.
  have short : (10 : ℚ) ^ p * perOne < gridUnit m := by
    have bits : (2 * leadingBit * gridUnit m : ℚ) < 10 ^ 16 * gridUnit m :=
      mul_lt_mul_of_pos_right (by norm_num [leadingBit]) positive
    have size := mul_le_mul_of_nonneg_right decade perOne_pos.le
    rw [value] at size
    refine lt_of_mul_lt_mul_left ?_ (by positivity : (0 : ℚ) ≤ 10 ^ 16)
    linarith
  refine Interval.onGrid_isSome x.interval_den_pos ?_ ?_ ?_
  · exact le_trans (le_mul_of_one_le_right ten.le (by norm_num)) decade
  · refine lt_of_mul_lt_mul_right ?_ perOne_pos.le
    linarith
  · refine lt_of_mul_lt_mul_right ?_ perOne_pos.le
    linarith

/-- A decimal without its last zeros is the same number. -/
theorem trimZeros_spec (fuel : Nat) {d : Decimal} (pos : 0 < d.digits) :
    0 < (trimZeros fuel d).digits ∧ (trimZeros fuel d).digits ≤ d.digits ∧
      units (trimZeros fuel d).digits (trimZeros fuel d).exponent = units d.digits d.exponent := by
  induction fuel generalizing d with
  | zero => exact ⟨pos, Nat.le_refl _, rfl⟩
  | succ fuel ih =>
    rw [trimZeros]
    split
    next zero =>
      obtain ⟨n, hn⟩ := Nat.dvd_of_mod_eq_zero zero
      have shorter : d.digits / 10 = n := by omega
      rw [shorter]
      obtain ⟨positive, most, same⟩ := ih (d := ⟨n, d.exponent + 1⟩) (by dsimp only; omega)
      refine ⟨positive, by dsimp only at most; omega, same.trans ?_⟩
      rw [units, units, hn, zpow_add_one₀ (by norm_num)]
      push_cast
      ring
    next => exact ⟨pos, Nat.le_refl _, rfl⟩

/-- The decimal of a double rounds to it. It has at most 17 digits, or is a one with 17 zeros. -/
theorem shortest_spec (h : x.isZero = false) (finite : x.isFinite) :
    0 < x.shortest.digits ∧ x.shortest.digits ≤ 10 ^ 17 ∧
      Rounds x.magnitudeBits (units x.shortest.digits x.shortest.exponent) := by
  obtain ⟨d, found⟩ := Option.isSome_iff_exists.mp (search_isSome_of_finite h finite)
  obtain ⟨j, small, onGrid⟩ := Interval.search_spec found
  obtain ⟨exponent, pos, inside, size⟩ := Interval.onGrid_spec x.interval_den_pos onGrid
  obtain ⟨_, upper⟩ := decade_of_finite h finite
  have shortest : x.shortest = trimZeros 17 d := by
    rw [Binary64.shortest, h, if_neg Bool.false_ne_true]
    dsimp only
    rw [found, Option.getD_some]
  have few : d.digits ≤ 10 ^ 17 := by
    have ten : (0 : ℚ) < 10 ^ (x.interval.decade - j) := zpow_pos (by norm_num) _
    have quotient : (x.interval.value / x.interval.den / 10 ^ (x.interval.decade - j) : ℚ) < 10 ^ 17 := by
      rw [div_lt_iff₀ ten]
      refine upper.trans_le ?_
      rw [← zpow_natCast, ← zpow_add₀ (by norm_num)]
      exact zpow_le_zpow_right₀ (by norm_num) (by omega)
    have below : (d.digits : ℚ) < (10 ^ 17 + 1 : Nat) := by
      push_cast
      linarith
    exact Nat.le_of_lt_succ (Nat.cast_lt.mp below)
  obtain ⟨positive, most, same⟩ := trimZeros_spec 17 pos
  rw [shortest]
  refine ⟨positive, Nat.le_trans most few, ?_⟩
  rw [same, units, exponent]
  exact rounds_of_contains h inside

end Shortest

end SensorFleet.Binary64
