import SensorFleet.Proofs.Number.Nearness

/-!
Scaling with powers of ten as the decoder of numbers does it, by one multiplication or division of
rounded numbers. The result is at most two steps from the double nearest to the decimal, and it is
that double if no rounding happens on the way.
-/
namespace SensorFleet
open Binary64

namespace Binary64

theorem Rounds.twice_le {m : Nat} {r : ℚ} (h : Rounds m r) :
    2 * r ≤ (4 * leadingBit - 1) * gridUnit m := by
  have succ : (grid (m + 1) : ℚ) = grid m + gridUnit m := by exact_mod_cast grid_succ m
  have most : (grid (m + 1) : ℚ) ≤ 2 * leadingBit * gridUnit m := by exact_mod_cast grid_succ_le m
  have upper := h.upper
  linarith

/-- Ratios that differ by a small factor are rounded to magnitudes a few steps apart. -/
theorem Rounds.steps {a b j : Nat} {r r' c : ℚ} (ha : Rounds a r) (hb : Rounds b r')
    (near : Within c r r') (one : 1 ≤ c) (few : (c - 1) * (4 * leadingBit - 1) < 2 * j) :
    b ≤ a + j ∧ a ≤ b + j := by
  have short {m : Nat} {x : ℚ} (h : Rounds m x) : x * c < x + j * gridUnit m := by
    have twice := mul_le_mul_of_nonneg_left h.twice_le (sub_nonneg.mpr one)
    have unit : (0 : ℚ) < gridUnit m := Nat.cast_pos.mpr (gridUnit_pos m)
    have steps := mul_lt_mul_of_pos_right few unit
    linarith
  exact ⟨ha.le_add hb.lower (near.2.trans_lt (short ha)),
    hb.le_add ha.lower (near.1.trans_lt (short hb))⟩

/-- Among the subnormal numbers the factor may be larger. -/
theorem Rounds.steps_of_small {a b j : Nat} {r r' c : ℚ} (ha : Rounds a r) (hb : Rounds b r')
    (near : Within c r r') (one : 1 ≤ c) (small : r ≤ leadingBit)
    (few : (c - 1) * (leadingBit * c) < j) : b ≤ a + j ∧ a ≤ b + j := by
  have short {m : Nat} {x : ℚ} (most : x ≤ leadingBit * c) : x * c < x + j * gridUnit m := by
    have bound := mul_le_mul_of_nonneg_left most (sub_nonneg.mpr one)
    have unit : (1 : ℚ) ≤ gridUnit m := Nat.one_le_cast.mpr (gridUnit_pos m)
    have steps : (j : ℚ) ≤ j * gridUnit m := le_mul_of_one_le_right (Nat.cast_nonneg j) unit
    linarith
  have smallMul : (leadingBit : ℚ) ≤ leadingBit * c :=
    le_mul_of_one_le_right (Nat.cast_nonneg _) one
  have smallOther : r' ≤ leadingBit * c :=
    near.2.trans (mul_le_mul_of_nonneg_right small (by linarith))
  exact ⟨ha.le_add hb.lower (near.2.trans_lt (short (small.trans smallMul))),
    hb.le_add ha.lower (near.1.trans_lt (short smallOther))⟩

end Binary64

namespace Json.Numeral

theorem power_eq (k : Nat) : power k = ofNat (10 ^ k) := by
  rw [power, ofDecimal, if_pos (Int.natCast_nonneg k), Int.toNat_natCast, Nat.one_mul]
  rfl

theorem pow_ten_le_largest {k : Nat} (h : k ≤ 308) : 10 ^ k ≤ largest :=
  Nat.le_trans (Nat.pow_le_pow_right (by decide) h) (by decide +kernel)

theorem power_approximates {k : Nat} (h : k ≤ 308) : Approximates (power k) slack (10 ^ k) := by
  have near := ofNat_approximates (Nat.pow_pos (n := k) (show 0 < 10 by decide)) (pow_ten_le_largest h)
  rwa [Nat.cast_pow, Nat.cast_ofNat, ← power_eq] at near

theorem power_exact {k : Nat} (h : k ≤ 22) : (power k).value = 10 ^ k := by
  have few : 5 ^ k ≤ 2 * leadingBit :=
    Nat.le_trans (Nat.pow_le_pow_right (by decide) h) (by decide)
  have exact := value_ofNat_exact (n := 10 ^ k) (Nat.pow_pos (by decide))
    (pow_ten_le_largest (by omega)) few (by rw [← Nat.mul_pow])
  rw [power_eq, exact, Nat.cast_pow, Nat.cast_ofNat]

theorem significand_le_largest {s : Nat} (fits : s < UInt64.size) : s ≤ largest :=
  Nat.le_trans (Nat.le_of_lt fits) (by decide +kernel)

theorem one_le_slack : 1 ≤ slack := by
  have bit : (0 : ℚ) ≤ 1 / (2 * leadingBit) := by positivity
  unfold slack
  linarith

theorem slack_twice : (slack * slack - 1) * (4 * leadingBit - 1) < 2 * (2 : Nat) := by
  norm_num [slack, leadingBit]

/-- The decimal, which should become the magnitude `a`, becomes `b`. -/
structure Becomes (s : Nat) (e : Int) (a b : Nat) : Prop where
  finite : b < infinityBits
  scaled : scaled 8 (ofNat s) e = .ok (ofMagnitude false b)
  above : b ≤ a + 2
  below : a ≤ b + 2
  exact : s ≤ 2 * leadingBit → -22 ≤ e → e ≤ 22 → b = a

section Scaled
variable {s a k : Nat}

/-- The decimal in units of the least positive number. -/
def units (s : Nat) (e : Int) : ℚ := s * 10 ^ e * perOne

theorem units_neg (s k : Nat) : units s (-k) = (s : ℚ) / (10 ^ k : Nat) * perOne := by
  rw [units, zpow_neg, zpow_natCast, ← div_eq_mul_inv, Nat.cast_pow, Nat.cast_ofNat]

theorem ofNat_significand (pos : 0 < s) (fits : s < UInt64.size) :
    Approximates (ofNat s) slack s := ofNat_approximates pos (significand_le_largest fits)

theorem significand_exact (pos : 0 < s) (few : s ≤ 2 * leadingBit) : (ofNat s).value = s :=
  value_ofNat_exact (t := 0) pos
    (Nat.le_trans few (significand_le_largest (s := 2 * leadingBit) (by decide))) few
    (Nat.mul_one s).symm

/-- One operation on the rounded significand and the rounded power. -/
theorem becomes_of_rounds {e : Int} {b : Nat} {r : ℚ} (ha : Rounds a (units s e))
    (room : a + 2 < infinityBits) (near : Within (slack * slack) r (s * 10 ^ e)) (hb : Rounds b (r * perOne))
    (exact : s ≤ 2 * leadingBit → -22 ≤ e → e ≤ 22 → r = s * 10 ^ e)
    (result : b < infinityBits → scaled 8 (ofNat s) e = .ok (ofMagnitude false b)) :
    Becomes s e a b := by
  obtain ⟨above, below⟩ := ha.steps hb ⟨(near.scale perOne_pos.le).2, (near.scale perOne_pos.le).1⟩
    (one_le_mul_of_one_le_of_one_le one_le_slack one_le_slack) slack_twice
  refine ⟨by omega, result (by omega), above, below, fun few least most => ?_⟩
  rw [exact few least most] at hb
  exact hb.unique ha

theorem scaled_up (pos : 0 < s) (fits : s < UInt64.size) (le : k ≤ 308)
    (ha : Rounds a (units s k)) (room : a + 2 < infinityBits) : ∃ b, Becomes s k a b := by
  obtain ⟨positive, nonzero, near⟩ := ofNat_significand pos fits
  obtain ⟨positive', nonzero', near'⟩ := power_approximates le
  obtain ⟨b, product, rounds⟩ := mul_rounds nonzero nonzero'
  have within := near.mul near' (value_pos nonzero).le (Nat.cast_nonneg s) (value_pos nonzero').le
    (by positivity)
  rw [← zpow_natCast] at within
  refine ⟨b, becomes_of_rounds ha room within rounds (fun few least most => ?_) fun finite => ?_⟩
  · rw [significand_exact pos few, power_exact (by omega), zpow_natCast]
  · have range : 0 ≤ (k : Int) ∧ (k : Int) ≤ 308 := by omega
    rw [positive, positive', bne_self_eq_false, Nat.min_eq_left (Nat.le_of_lt finite)] at product
    rw [scaled, if_pos range, Int.toNat_natCast, product]
    dsimp only
    rw [if_pos]
    simpa [isFinite, magnitudeBits_ofMagnitude false (lt_signBit finite)] using finite

theorem scaled_down (pos : 0 < s) (fits : s < UInt64.size) (least : 0 < k) (le : k ≤ 308)
    (ha : Rounds a (units s (-k))) (room : a + 2 < infinityBits) : ∃ b, Becomes s (-k) a b := by
  obtain ⟨positive, nonzero, near⟩ := ofNat_significand pos fits
  obtain ⟨positive', nonzero', near'⟩ := power_approximates le
  obtain ⟨b, quotient, rounds⟩ := div_rounds nonzero nonzero'
  have within := near.div near' (value_pos nonzero).le (Nat.cast_nonneg s) (value_pos nonzero')
    (by positivity)
  have decimal : (s / 10 ^ k : ℚ) = s * 10 ^ (-k : Int) := by
    rw [zpow_neg, zpow_natCast, div_eq_mul_inv]
  rw [decimal] at within
  refine ⟨b, becomes_of_rounds ha room within rounds (fun few least most => ?_) fun finite => ?_⟩
  · rw [significand_exact pos few, power_exact (by omega), ← decimal]
  · have range : ¬ (0 ≤ -(k : Int) ∧ -(k : Int) ≤ 308) := by omega
    have range' : -308 ≤ -(k : Int) ∧ -(k : Int) < 0 := by omega
    rw [positive, positive', bne_self_eq_false, Nat.min_eq_left (Nat.le_of_lt finite)] at quotient
    rw [scaled, if_neg range, if_pos range', neg_neg, Int.toNat_natCast, quotient]

end Scaled

end Json.Numeral
end SensorFleet
