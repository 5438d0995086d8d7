import Mathlib.Algebra.Order.Field.Power
import Mathlib.Algebra.Order.Field.Rat
import Mathlib.Tactic.FieldSimp
import Mathlib.Tactic.Positivity
import SensorFleet.Proofs.Number.Grid

/-!
Rounding a ratio to the nearest double. A ratio rounds to the magnitude in whose interval it lies,
which reaches half-way to either neighbour; the ends belong to it if its last bit is zero.
-/
namespace SensorFleet.Binary64

/-- The ratio, in units of the least positive number, lies in the interval of the magnitude. -/
structure Rounds (m : Nat) (r : ℚ) : Prop where
  lower : (grid (m - 1) + grid m : ℚ) ≤ 2 * r
  upper : 2 * r ≤ grid m + grid (m + 1)
  tie : 2 * r = grid (m - 1) + grid m ∨ 2 * r = grid m + grid (m + 1) → m % 2 = 0

/-- How many units of the least positive number make one. -/
def perOne : ℚ := 2 ^ 1074

theorem perOne_pos : 0 < perOne := pow_pos two_pos _

theorem roundHalfEven_spec (n : Nat) {d : Nat} (pos : 0 < d) :
    2 * (roundHalfEven n d * d) ≤ 2 * n + d ∧ 2 * n ≤ 2 * (roundHalfEven n d * d) + d ∧
      (2 * (roundHalfEven n d * d) = 2 * n + d ∨ 2 * n = 2 * (roundHalfEven n d * d) + d →
        roundHalfEven n d % 2 = 0) := by
  have split := Nat.div_add_mod n d
  have small := Nat.mod_lt n pos
  have next : (n / d + 1) * d = d * (n / d) + d := by rw [Nat.succ_mul, Nat.mul_comm]
  have same : n / d * d = d * (n / d) := Nat.mul_comm _ _
  unfold roundHalfEven
  dsimp only
  split
  · rw [same]
    omega
  · split
    · rw [next]
      omega
    · rcases Nat.mod_two_eq_zero_or_one (n / d) with even | odd
      · rw [even, Nat.add_zero, same]
        omega
      · rw [odd, next]
        omega

theorem shift_pos (num : Nat) {den : Nat} (pos : 0 < den) (k : Int) :
    0 < (shift num den k).2 := by
  unfold shift
  split
  · exact pos
  · rw [Nat.shiftLeft_eq]
    exact Nat.mul_pos pos (Nat.pow_pos (by decide))

theorem shift_ratio (num den : Nat) (k : Int) :
    ((shift num den k).1 / (shift num den k).2 : ℚ) = num / den * 2 ^ k := by
  unfold shift
  split
  next up =>
    obtain ⟨n, rfl⟩ := Int.eq_ofNat_of_zero_le up
    rw [Int.toNat_natCast, Nat.shiftLeft_eq]
    push_cast
    rw [zpow_natCast]
    ring
  next down =>
    obtain ⟨n, hn⟩ := Int.eq_ofNat_of_zero_le (show 0 ≤ -k by omega)
    obtain rfl : k = -(n : Int) := by omega
    rw [neg_neg, Int.toNat_natCast, Nat.shiftLeft_eq]
    push_cast
    rw [zpow_neg, zpow_natCast, mul_comm (den : ℚ), div_mul_eq_div_div_swap]
    field_simp

section Scale
variable {num den : Nat}

theorem ratio_between_logs (hn : 0 < num) (hd : 0 < den) :
    (2 : ℚ) ^ ((num.log2 : Int) - den.log2 - 1) < num / den ∧
      (num / den : ℚ) < 2 ^ ((num.log2 : Int) - den.log2 + 1) := by
  have hn₁ : ((2 ^ num.log2 : Nat) : ℚ) ≤ num := Nat.cast_le.mpr (Nat.log2_self_le (Nat.ne_of_gt hn))
  have hn₂ : (num : ℚ) < (2 ^ (num.log2 + 1) : Nat) := Nat.cast_lt.mpr Nat.lt_log2_self
  have hd₁ : ((2 ^ den.log2 : Nat) : ℚ) ≤ den := Nat.cast_le.mpr (Nat.log2_self_le (Nat.ne_of_gt hd))
  have hd₂ : (den : ℚ) < (2 ^ (den.log2 + 1) : Nat) := Nat.cast_lt.mpr Nat.lt_log2_self
  push_cast at hn₁ hn₂ hd₁ hd₂
  have pos : (0 : ℚ) < den := Nat.cast_pos.mpr hd
  constructor
  · rw [lt_div_iff₀ pos]
    calc (2 : ℚ) ^ ((num.log2 : Int) - den.log2 - 1) * den
        < 2 ^ ((num.log2 : Int) - den.log2 - 1) * 2 ^ (den.log2 + 1) :=
          mul_lt_mul_of_pos_left hd₂ (by positivity)
      _ = 2 ^ num.log2 := by
          rw [← zpow_natCast, ← zpow_natCast, ← zpow_add₀ two_ne_zero]
          congr 1
          push_cast
          ring
      _ ≤ num := hn₁
  · rw [div_lt_iff₀ pos]
    calc (num : ℚ) < 2 ^ (num.log2 + 1) := hn₂
      _ = 2 ^ ((num.log2 : Int) - den.log2 + 1) * 2 ^ den.log2 := by
          rw [← zpow_natCast, ← zpow_natCast, ← zpow_add₀ two_ne_zero]
          congr 1
          push_cast
          ring
      _ ≤ 2 ^ ((num.log2 : Int) - den.log2 + 1) * den :=
          mul_le_mul_of_nonneg_left hd₁ (by positivity)

theorem leadingBit_zpow : (leadingBit : ℚ) = 2 ^ (52 : Int) := by norm_num [leadingBit]

/-- The scale that the logarithms give is right, or it is too large by one. -/
theorem guess_spec (hn : 0 < num) (hd : 0 < den) :
    (num / den : ℚ) * 2 ^ (-((num.log2 : Int) - den.log2 - 52)) < 2 * leadingBit ∧
      (leadingBit : ℚ) < 2 * (num / den * 2 ^ (-((num.log2 : Int) - den.log2 - 52))) := by
  obtain ⟨above, below⟩ := ratio_between_logs hn hd
  obtain ⟨guess, hg⟩ : ∃ guess : Int, guess = num.log2 - den.log2 - 52 := ⟨_, rfl⟩
  rw [← hg]
  have power : (0 : ℚ) < 2 ^ (-guess) := by positivity
  constructor
  · calc (num / den : ℚ) * 2 ^ (-guess)
        < 2 ^ ((num.log2 : Int) - den.log2 + 1) * 2 ^ (-guess) :=
          mul_lt_mul_of_pos_right below power
      _ = 2 * leadingBit := by
          rw [leadingBit_zpow, ← zpow_add₀ two_ne_zero, ← zpow_one_add₀ two_ne_zero]
          congr 1
          omega
  · calc (leadingBit : ℚ) = 2 * (2 ^ ((num.log2 : Int) - den.log2 - 1) * 2 ^ (-guess)) := by
          rw [leadingBit_zpow, ← zpow_add₀ two_ne_zero, ← zpow_one_add₀ two_ne_zero]
          congr 1
          omega
      _ < 2 * (num / den * 2 ^ (-guess)) :=
          mul_lt_mul_of_pos_left (mul_lt_mul_of_pos_right above power) two_pos

theorem mul_zpow_rescale (r : ℚ) (q k : Int) : r * 2 ^ (-q) = r * 2 ^ (-k) * 2 ^ (k - q) := by
  rw [mul_assoc, ← zpow_add₀ two_ne_zero]
  congr 2
  ring

theorem exists_scale (hn : 0 < num) (hd : 0 < den) : ∃ best, scaleOf num den = max best (-1074) ∧
    (leadingBit : ℚ) ≤ num / den * 2 ^ (-best) ∧ (num / den : ℚ) * 2 ^ (-best) < 2 * leadingBit := by
  obtain ⟨upper, lower⟩ := guess_spec hn hd
  unfold scaleOf
  dsimp only
  generalize (num.log2 : Int) - den.log2 - 52 = guess at upper lower ⊢
  have positive := shift_pos num hd (-guess)
  have floor : (shift num den (-guess)).1 / (shift num den (-guess)).2 < leadingBit ↔
      (num / den : ℚ) * 2 ^ (-guess) < leadingBit := by
    rw [Nat.div_lt_iff_lt_mul positive, ← shift_ratio, div_lt_iff₀ (Nat.cast_pos.mpr positive)]
    exact_mod_cast Iff.rfl
  by_cases small : (num / den : ℚ) * 2 ^ (-guess) < leadingBit
  · refine ⟨guess - 1, by rw [if_pos (floor.mpr small)], ?_⟩
    rw [mul_zpow_rescale _ (guess - 1) guess, sub_sub_cancel, zpow_one]
    constructor <;> linarith
  · refine ⟨guess, by rw [if_neg (fun h => small (floor.mp h))], ?_⟩
    exact ⟨le_of_not_gt small, upper⟩

/-- At its scale a ratio has 53 bits before the point, or fewer if the scale is the least one. -/
theorem scaleOf_spec (hn : 0 < num) (hd : 0 < den) : -1074 ≤ scaleOf num den ∧
    (num / den : ℚ) * 2 ^ (-scaleOf num den) < 2 * leadingBit ∧
    (-1074 < scaleOf num den → (leadingBit : ℚ) ≤ num / den * 2 ^ (-scaleOf num den)) := by
  obtain ⟨best, scale, least, most⟩ := exists_scale hn hd
  rw [scale]
  refine ⟨le_max_right _ _, ?_, fun normal => ?_⟩
  · rw [mul_zpow_rescale _ (max best (-1074)) best]
    apply lt_of_le_of_lt (mul_le_of_le_one_right (by positivity) ?_) most
    exact zpow_le_one_of_nonpos₀ one_le_two (by omega)
  · rw [max_eq_left (by omega)]
    exact least

/-- The nearest whole number is half a unit away at most. -/
theorem roundHalfEven_near (n : Nat) {d : Nat} (pos : 0 < d) :
    (2 * roundHalfEven n d - 1 : ℚ) ≤ 2 * (n / d) ∧ 2 * (n / d : ℚ) ≤ 2 * roundHalfEven n d + 1 ∧
      (2 * (n / d : ℚ) = 2 * roundHalfEven n d - 1 ∨ 2 * (n / d : ℚ) = 2 * roundHalfEven n d + 1 →
        roundHalfEven n d % 2 = 0) := by
  obtain ⟨lower, upper, tie⟩ := roundHalfEven_spec n pos
  generalize roundHalfEven n d = k at lower upper tie ⊢
  have posQ : (0 : ℚ) < d := Nat.cast_pos.mpr pos
  have lowerQ : (2 * (k * d) : ℚ) ≤ 2 * n + d := by exact_mod_cast lower
  have upperQ : (2 * n : ℚ) ≤ 2 * (k * d) + d := by exact_mod_cast upper
  have whole : 2 * (n / d : ℚ) = 2 * n / d := by ring
  rw [whole, le_div_iff₀ posQ, div_le_iff₀ posQ, div_eq_iff posQ.ne', div_eq_iff posQ.ne']
  refine ⟨by linarith, by linarith, fun h => tie (h.imp (fun h => ?_) fun h => ?_)⟩
  · have same : (2 * (k * d) : ℚ) = 2 * n + d := by linarith
    exact_mod_cast same
  · have same : (2 * n : ℚ) = 2 * (k * d) + d := by linarith
    exact_mod_cast same

section Neighbours
variable {t k : Nat} {x : ℚ} (kMost : k ≤ 2 * leadingBit) (kLeast : t = 0 ∨ leadingBit ≤ k)
include kMost kLeast

theorem grid_scaled_cast : (grid (t * leadingBit + k) : ℚ) = k * 2 ^ t := by
  rw [grid_scaled kMost kLeast]
  push_cast
  rfl

/-- Half a unit below a significand. Below the least one with 53 bits the unit is smaller, but there
the ratio is above. -/
theorem halfway_below (least : t = 0 ∨ (leadingBit : ℚ) ≤ x) (nonneg : 0 ≤ x)
    (lower : (2 * k - 1 : ℚ) ≤ 2 * x) :
    (grid (t * leadingBit + k - 1) + grid (t * leadingBit + k) : ℚ) ≤ 2 * (x * 2 ^ t) ∧
      (2 * (x * 2 ^ t) = grid (t * leadingBit + k - 1) + grid (t * leadingBit + k) →
        k = 0 ∨ 2 * x = 2 * k - 1) := by
  have here := grid_scaled_cast kMost kLeast
  have scale : (0 : ℚ) < 2 ^ t := by positivity
  have scaled := mul_le_mul_of_nonneg_right lower scale.le
  rcases Nat.eq_zero_or_pos k with rfl | positive
  · obtain rfl : t = 0 := kLeast.resolve_right (by decide)
    simp [grid_zero, nonneg]
  by_cases inner : t = 0 ∨ leadingBit + 1 ≤ k
  · obtain ⟨k, rfl⟩ := Nat.exists_eq_succ_of_ne_zero (Nat.ne_of_gt positive)
    have prior : (grid (t * leadingBit + (k + 1) - 1) : ℚ) = k * 2 ^ t := by
      rw [← Nat.add_assoc, Nat.add_sub_cancel, grid_scaled_cast (by omega) (by omega)]
    rw [prior, here]
    push_cast at scaled ⊢
    refine ⟨by linarith, fun same => .inr ?_⟩
    exact mul_right_cancel₀ scale.ne' (by linarith)
  · rw [not_or] at inner
    have exceeds : (leadingBit : ℚ) * 2 ^ t ≤ x * 2 ^ t :=
      mul_le_mul_of_nonneg_right (least.resolve_left inner.1) scale.le
    have last : k = leadingBit := by omega
    have prior : (grid (t * leadingBit + k - 1) : ℚ) < grid (t * leadingBit + k) :=
      Nat.cast_lt.mpr (grid_strictMono (by omega))
    rw [here, last] at prior ⊢
    exact ⟨by linarith, fun same => absurd same (by linarith)⟩

/-- Half a unit above a significand. Above the largest one the unit is larger, but there the ratio is
below. -/
theorem halfway_above (most : x < 2 * leadingBit) (upper : 2 * x ≤ (2 * k + 1 : ℚ)) :
    2 * (x * 2 ^ t) ≤ (grid (t * leadingBit + k) + grid (t * leadingBit + k + 1) : ℚ) ∧
      (2 * (x * 2 ^ t) = grid (t * leadingBit + k) + grid (t * leadingBit + k + 1) →
        2 * x = 2 * k + 1) := by
  have here := grid_scaled_cast kMost kLeast
  have scale : (0 : ℚ) < 2 ^ t := by positivity
  have scaled := mul_le_mul_of_nonneg_right upper scale.le
  rcases Nat.lt_or_ge k (2 * leadingBit) with inner | full
  · have next : (grid (t * leadingBit + k + 1) : ℚ) = (k + 1 : Nat) * 2 ^ t := by
      rw [Nat.add_assoc, grid_scaled_cast inner (by omega)]
    rw [next, here]
    push_cast
    refine ⟨by linarith, fun same => ?_⟩
    exact mul_right_cancel₀ scale.ne' (by linarith)
  · have exceeds : x * 2 ^ t < 2 * leadingBit * 2 ^ t := mul_lt_mul_of_pos_right most scale
    have last : k = 2 * leadingBit := by omega
    have next : (grid (t * leadingBit + k) : ℚ) < grid (t * leadingBit + k + 1) :=
      Nat.cast_lt.mpr (grid_lt_succ _)
    rw [here, last] at next ⊢
    push_cast at next ⊢
    exact ⟨by linarith, fun same => absurd same (by linarith)⟩

end Neighbours

/-- The significand nearest to a ratio makes the magnitude that the ratio rounds to. -/
theorem rounds_scaled {t n d : Nat} (pos : 0 < d) (most : (n / d : ℚ) < 2 * leadingBit)
    (least : t = 0 ∨ (leadingBit : ℚ) ≤ n / d) :
    Rounds (t * leadingBit + roundHalfEven n d) (n / d * 2 ^ t) := by
  obtain ⟨lower, upper, tie⟩ := roundHalfEven_near n pos
  have nonneg : (0 : ℚ) ≤ n / d := by positivity
  generalize roundHalfEven n d = k at lower upper tie ⊢
  generalize (n / d : ℚ) = x at *
  have kMost : k ≤ 2 * leadingBit := by
    have near : (k : ℚ) < (2 * leadingBit + 1 : Nat) := by push_cast; linarith
    exact Nat.le_of_lt_succ (Nat.cast_lt.mp near)
  have kLeast : t = 0 ∨ leadingBit ≤ k := by
    apply least.imp_right
    intro h
    have near : (leadingBit : ℚ) < (k + 1 : Nat) := by push_cast; linarith
    exact Nat.le_of_lt_succ (Nat.cast_lt.mp near)
  obtain ⟨below, atLow⟩ := halfway_below kMost kLeast least nonneg lower
  obtain ⟨above, atHigh⟩ := halfway_above kMost kLeast most upper
  refine ⟨below, above, fun h => ?_⟩
  have even : k % 2 = 0 := by
    rcases h with low | high
    · rcases atLow low with rfl | half
      · rfl
      · exact tie (.inl half)
    · exact tie (.inr (atHigh high))
  unfold leadingBit
  omega

/-- A ratio is rounded to the magnitude in whose interval it lies, or to infinity beyond that. -/
theorem ofRatio_rounds (negative : Bool) (hn : 0 < num) (hd : 0 < den) : ∃ m,
    ofRatio negative num den = ofMagnitude negative (min m infinityBits) ∧
      Rounds m (num / den * perOne) := by
  obtain ⟨least, most, normal⟩ := scaleOf_spec hn hd
  have ratio := shift_ratio num den (-scaleOf num den)
  have pos := shift_pos num hd (-scaleOf num den)
  obtain ⟨t, ht⟩ := Int.eq_ofNat_of_zero_le (show 0 ≤ scaleOf num den + 1074 by omega)
  have scale : scaleOf num den = t - 1074 := by omega
  refine ⟨t * leadingBit + roundHalfEven (shift num den (-scaleOf num den)).1
    (shift num den (-scaleOf num den)).2, ?_, ?_⟩
  · rw [ofRatio, if_neg (Nat.ne_of_gt hn)]
    dsimp only
    rw [ht, Int.toNat_natCast]
  · have rounds := rounds_scaled (t := t) pos (ratio ▸ most) (by
      rcases Nat.eq_zero_or_pos t with zero | positive
      · exact .inl zero
      · exact .inr (ratio ▸ normal (by omega)))
    have whole : (2 : ℚ) ^ (-scaleOf num den) * 2 ^ t = perOne := by
      rw [perOne, ← zpow_natCast, ← zpow_add₀ two_ne_zero, ← zpow_natCast]
      congr 1
      omega
    rwa [ratio, mul_assoc, whole] at rounds

end Scale

theorem Rounds.mono {a b : Nat} {r r' : ℚ} (ha : Rounds a r) (hb : Rounds b r') (le : r' ≤ r) :
    b ≤ a := by
  refine Nat.le_of_not_lt fun above => ?_
  have first : grid a ≤ grid (b - 1) := grid_le (by omega)
  have second : grid (a + 1) ≤ grid b := grid_le above
  have twice : 2 * r' ≤ 2 * r := by linarith
  have bound : grid (b - 1) + grid b ≤ grid a + grid (a + 1) := by
    exact_mod_cast hb.lower.trans (twice.trans ha.upper)
  -- Both intervals end in the ratio, so that both magnitudes are even and next to each other.
  have adjacent : b = a + 1 := by
    refine Nat.le_antisymm (Nat.le_of_not_lt fun further => ?_) above
    have := grid_strictMono further
    omega
  subst adjacent
  have lower : (grid a + grid (a + 1) : ℚ) ≤ 2 * r' := hb.lower
  have even := ha.tie (.inr (le_antisymm ha.upper (lower.trans twice)))
  have even' := hb.tie (.inl (le_antisymm (twice.trans ha.upper) lower))
  omega

/-- A ratio lies in the interval of one magnitude only. -/
theorem Rounds.unique {a b : Nat} {r : ℚ} (ha : Rounds a r) (hb : Rounds b r) : a = b :=
  Nat.le_antisymm (hb.mono ha (le_refl r)) (ha.mono hb (le_refl r))

theorem rounds_grid (m : Nat) : Rounds m (grid m) := by
  have before : grid (m - 1) ≤ grid m := grid_le (Nat.sub_le m 1)
  have after := grid_lt_succ m
  refine ⟨?_, ?_, fun h => ?_⟩
  · have beforeQ : (grid (m - 1) : ℚ) ≤ grid m := Nat.cast_le.mpr before
    linarith
  · have afterQ : (grid m : ℚ) < grid (m + 1) := Nat.cast_lt.mpr after
    linarith
  · rcases h with same | same
    · have level : 2 * grid m = grid (m - 1) + grid m := by exact_mod_cast same
      have zero : m - 1 = m := grid_strictMono.injective (by omega)
      omega
    · have level : 2 * grid m = grid m + grid (m + 1) := by exact_mod_cast same
      omega

/-- A number of at most 53 bits, times a power of two, is on the grid. -/
theorem exists_grid {n : Nat} (t : Nat) (few : n ≤ 2 * leadingBit) : ∃ m, grid m = n * 2 ^ t := by
  induction t generalizing n with
  | zero => exact ⟨0 * leadingBit + n, grid_scaled few (.inl rfl)⟩
  | succ t ih =>
    rcases Nat.lt_or_ge n leadingBit with small | normal
    · obtain ⟨m, hm⟩ := ih (n := 2 * n) (by omega)
      exact ⟨m, by rw [hm, Nat.pow_succ]; ring⟩
    · exact ⟨(t + 1) * leadingBit + n, grid_scaled few (.inr normal)⟩

section Between
variable {m k t : Nat} {r : ℚ}

/-- Rounding does not pass a number of the grid. -/
theorem Rounds.bounded_below (h : Rounds m r) (few : k ≤ 2 * leadingBit) (le : k * 2 ^ t ≤ r) :
    (k * 2 ^ t : ℚ) ≤ grid m := by
  obtain ⟨a, ha⟩ := exists_grid t few
  have whole : (grid a : ℚ) = k * 2 ^ t := by exact_mod_cast ha
  rw [← whole] at le ⊢
  exact Nat.cast_le.mpr (grid_le (h.mono (rounds_grid a) le))

theorem Rounds.bounded_above (h : Rounds m r) (few : k ≤ 2 * leadingBit) (le : r ≤ k * 2 ^ t) :
    (grid m : ℚ) ≤ k * 2 ^ t := by
  obtain ⟨a, ha⟩ := exists_grid t few
  have whole : (grid a : ℚ) = k * 2 ^ t := by exact_mod_cast ha
  rw [← whole] at le ⊢
  exact Nat.cast_le.mpr (grid_le ((rounds_grid a).mono h le))

end Between

def largest : Nat := (2 * leadingBit - 1) * 2 ^ 971

theorem grid_last : (grid (infinityBits - 1) : ℚ) = largest * perOne := by
  have last : infinityBits - 1 = 2045 * leadingBit + (2 * leadingBit - 1) := by decide
  rw [last, grid_scaled (by decide) (.inr (by decide)), largest, perOne, Nat.cast_mul, Nat.cast_mul,
    Nat.cast_pow, Nat.cast_pow, Nat.cast_ofNat, mul_assoc, ← pow_add]

theorem Rounds.lt_infinity {m : Nat} {r : ℚ} (h : Rounds m r) (small : r ≤ largest * perOne) :
    m < infinityBits := by
  refine Nat.lt_of_not_le fun above => ?_
  have first : (grid (infinityBits - 1) : ℚ) ≤ grid (m - 1) :=
    Nat.cast_le.mpr (grid_le (Nat.sub_le_sub_right above 1))
  have second : (grid (infinityBits - 1) : ℚ) < grid m :=
    Nat.cast_lt.mpr (grid_strictMono (Nat.lt_of_lt_of_le (by decide) above))
  rw [grid_last] at first second
  have lower := h.lower
  linarith

end SensorFleet.Binary64
