import SensorFleet.Proofs.Number.Scaling

/-!
Exponents below -308, which the decoder of numbers works off in two divisions. The double of
`10 ^ 308` is so near to it, and a quotient by it so much nearer than in the worst case, that the
result is still at most two steps from the double nearest to the decimal.
-/
namespace SensorFleet.Json.Numeral

open Binary64

section Power

/-- The significand of the double of `10 ^ 308`. -/
def head308 : Nat := 0x11ccf385ebc8a0

/-- The factor by which the double of `10 ^ 308` is off. -/
def slack308 : ℚ := 1 + 1 / (20 * leadingBit)

/-- What the significands of the largest numbers count. -/
def topUnit : ℚ := 2 ^ 971

theorem topUnit_pos : 0 < topUnit := pow_pos two_pos _

theorem perOne_topUnit : perOne = 2 ^ 103 * topUnit := by rw [perOne, topUnit, ← pow_add]

theorem power_308 : power 308 = ⟨0x7fe1ccf385ebc8a0⟩ := by decide +kernel

theorem value_power_308 : (power 308).value = head308 * topUnit := by
  have bits : (power 308).magnitudeBits = 2045 * leadingBit + head308 := by
    rw [power_308]
    decide
  rw [value, bits, grid_scaled (by decide) (.inr (by decide)), perOne, topUnit, Nat.cast_mul,
    Nat.cast_pow, Nat.cast_ofNat, div_eq_iff (pow_ne_zero _ two_ne_zero), mul_assoc, ← pow_add]

theorem within_power_308 : Within slack308 (power 308).value (10 ^ 308) := by
  have bit : (0 : ℚ) < 20 * leadingBit := mul_pos (by norm_num) (Nat.cast_pos.mpr leadingBit_pos)
  have slack_eq (x : ℚ) : x * slack308 = (x * (20 * leadingBit + 1)) / (20 * leadingBit) := by
    rw [slack308, eq_div_iff bit.ne', mul_assoc, add_mul, one_mul, one_div_mul_cancel bit.ne']
  have above : head308 * 2 ^ 971 * (20 * leadingBit) ≤ 10 ^ 308 * (20 * leadingBit + 1) := by
    decide +kernel
  have below : 10 ^ 308 * (20 * leadingBit) ≤ head308 * 2 ^ 971 * (20 * leadingBit + 1) := by
    decide +kernel
  rw [Within, slack_eq, slack_eq, le_div_iff₀ bit, le_div_iff₀ bit, value_power_308, topUnit]
  exact ⟨by exact_mod_cast above, by exact_mod_cast below⟩

end Power

section Scaled
variable {s a k : Nat}

def quotientSlack : ℚ := 1 + 1999 / 1000 / (2 * leadingBit)

def divisionSlack : ℚ := 1 + 18989 / 10000 / (2 * leadingBit)

section FirstQuotient
variable {n m i : Nat} {r : ℚ}

theorem divisor_pos : (0 : ℚ) < head308 * topUnit := mul_pos (by norm_num [head308]) topUnit_pos

theorem pow_topUnit (i : Nat) : (2 : ℚ) ^ (i + 1023) = 2 ^ i * (leadingBit * topUnit) := by
  have bit : (leadingBit : ℚ) = 2 ^ 52 := by norm_num [leadingBit]
  rw [bit, topUnit, ← pow_add, ← pow_add]

/-- Rounding a number first and then its quotient. -/
theorem within_divided {c d : ℚ} (hm : Within c (grid m) (grid n / (head308 * topUnit)))
    (hn : Within d (grid n) r) (nonneg : 0 ≤ r) (one : 1 ≤ c) (one' : 1 ≤ d)
    (few : c * d ≤ divisionSlack) : Within divisionSlack (grid m) (r / (head308 * topUnit)) := by
  have scaled := hn.scale (inv_nonneg.mpr divisor_pos.le)
  rw [← div_eq_mul_inv, ← div_eq_mul_inv] at scaled
  exact (hm.trans scaled (by linarith) (by linarith)).mono few (Nat.cast_nonneg _)
    (div_nonneg nonneg divisor_pos.le)

variable (hn : Rounds n r) (hm : Rounds m (grid n / (head308 * topUnit)))
include hn hm

/-- A number whose significand is not below the divisor's is rounded by less than in the worst
case. -/
theorem first_quotient_of_large (large : (head308 * 2 ^ (i + 1023) : ℚ) ≤ r)
    (below : r ≤ 2 * leadingBit * 2 ^ (i + 1023)) :
    Within divisionSlack (grid m) (r / (head308 * topUnit)) := by
  have near := hn.within_binade below large (by decide) (by decide)
  have least := hn.bounded_below (by decide) large
  have quotient : (leadingBit : ℚ) ≤ grid n / (head308 * topUnit) := by
    rw [le_div_iff₀ divisor_pos]
    have bit : (0 : ℚ) ≤ leadingBit := Nat.cast_nonneg _
    have step := mul_le_mul_of_nonneg_right (one_le_pow₀ (n := i) (show (1 : ℚ) ≤ 2 from one_le_two))
      (mul_nonneg divisor_pos.le bit)
    rw [pow_topUnit] at least
    linarith
  have nonneg : 0 ≤ r := le_trans (by positivity) large
  apply within_divided (hm.within quotient) near nonneg one_le_slack
  · norm_num [head308]
  · norm_num [slack, divisionSlack, head308, leadingBit]

/-- The quotient of a number whose significand is below the divisor's is rounded by less. -/
theorem first_quotient_of_small (above : leadingBit * 2 ^ (i + 1 + 1023) ≤ r)
    (small : r ≤ head308 * 2 ^ (i + 1 + 1023)) (normal : (leadingBit : ℚ) ≤ r) :
    Within divisionSlack (grid m) (r / (head308 * topUnit)) := by
  have least := hn.bounded_below (by decide) above
  have most := hn.bounded_above (by decide) small
  rw [pow_topUnit, pow_succ] at least most
  have upper : (grid n / (head308 * topUnit) : ℚ) ≤ 2 * leadingBit * 2 ^ i := by
    rw [div_le_iff₀ divisor_pos]
    linarith
  have lower : ((0x1cc359e067a348 : Nat) * 2 ^ i : ℚ) ≤ grid n / (head308 * topUnit) := by
    rw [le_div_iff₀ divisor_pos]
    have step : (0 : ℚ) < 2 ^ i * topUnit := mul_pos (pow_pos two_pos _) topUnit_pos
    norm_num [head308, leadingBit] at least ⊢
    linarith
  have nonneg : 0 ≤ r := le_trans (Nat.cast_nonneg _) normal
  apply within_divided (hm.within_binade upper lower (by decide) (by decide)) (hn.within normal) nonneg
    ?_ one_le_slack
  · norm_num [slack, divisionSlack, leadingBit]
  · norm_num

end FirstQuotient

/-- The first quotient, in units of the least positive number. If the significand is rounded by much
the quotient is not, as the divisor is about 1.1 times a power of two. -/
theorem first_quotient_within {n m : Nat} (least : 3 ≤ s) (hn : Rounds n (s * perOne))
    (hm : Rounds m (grid n / (head308 * topUnit))) :
    Within divisionSlack (grid m) (s * perOne / (head308 * topUnit)) := by
  have unit := topUnit_pos
  have some : (3 : ℚ) ≤ s := by exact_mod_cast least
  have large : 3 * (2 ^ 103 * topUnit) ≤ s * perOne := by
    rw [← perOne_topUnit]
    exact mul_le_mul_of_nonneg_right some perOne_pos.le
  have normal : (leadingBit : ℚ) ≤ s * perOne :=
    leadingBit_le_perOne.trans (le_mul_of_one_le_left perOne_pos.le (by linarith))
  obtain ⟨j, above, below⟩ := exists_binade normal
  generalize (s * perOne : ℚ) = r at *
  obtain ⟨i, rfl⟩ : ∃ i, j = i + 1023 := by
    refine ⟨j - 1023, (Nat.sub_add_cancel (Nat.le_of_not_lt fun low => ?_)).symm⟩
    have power : (2 : ℚ) ^ j ≤ 2 ^ 51 * topUnit := by
      rw [topUnit, ← pow_add]
      exact pow_le_pow_right₀ one_le_two (by omega)
    norm_num [leadingBit] at below
    linarith
  rcases le_or_gt (head308 * 2 ^ (i + 1023) : ℚ) r with coarse | fine
  · exact first_quotient_of_large hn hm coarse below.le
  · obtain ⟨i, rfl⟩ : ∃ k, i = k + 1 := by
      refine ⟨i - 1, (Nat.sub_add_cancel (Nat.pos_of_ne_zero ?_)).symm⟩
      rintro rfl
      rw [pow_topUnit, pow_zero, one_mul] at fine
      norm_num [head308, leadingBit] at fine
      linarith
    exact first_quotient_of_small hn hm above fine.le normal

/-- The first quotient is a number of full precision. -/
theorem first_quotient_normal (least : 3 ≤ s) (near : Within slack (ofNat s).value s) :
    (leadingBit : ℚ) ≤ (ofNat s).value / (power 308).value * perOne := by
  have some : (3 : ℚ) ≤ s := by exact_mod_cast least
  have few : slack ≤ 5 / 4 := by norm_num [slack, leadingBit]
  have two : 12 / 5 ≤ (ofNat s).value := by
    have bound := mul_le_mul_of_nonneg_left few (show 0 ≤ (ofNat s).value from
      div_nonneg (Nat.cast_nonneg _) perOne_pos.le)
    linarith [near.2]
  rw [value_power_308, div_mul_eq_mul_div, le_div_iff₀ divisor_pos, perOne_topUnit, ← mul_assoc,
    ← mul_assoc]
  refine mul_le_mul_of_nonneg_right ?_ topUnit_pos.le
  have scaled := mul_le_mul_of_nonneg_right two (show (0 : ℚ) ≤ 2 ^ 103 by positivity)
  refine le_trans ?_ scaled
  norm_num [head308, leadingBit]

theorem first_quotient_le_largest (fits : s < UInt64.size)
    (near : Within slack (ofNat s).value s) : (ofNat s).value / (power 308).value ≤ largest := by
  have size : (s : ℚ) ≤ 2 ^ 64 := by exact_mod_cast Nat.le_of_lt fits
  have few : slack ≤ 5 / 4 := by norm_num [slack, leadingBit]
  have nonneg : 0 ≤ (ofNat s).value := div_nonneg (Nat.cast_nonneg _) perOne_pos.le
  have one : (1 : ℚ) ≤ (power 308).value := by
    rw [value_power_308, topUnit]
    exact one_le_mul_of_one_le_of_one_le (by norm_num [head308]) (one_le_pow₀ one_le_two)
  have room : ((2 ^ 65 : Nat) : ℚ) ≤ largest := Nat.cast_le.mpr (by decide +kernel)
  calc (ofNat s).value / (power 308).value ≤ (ofNat s).value := div_le_self nonneg one
    _ ≤ s * slack := near.1
    _ ≤ 2 ^ 64 * (5 / 4) := mul_le_mul size few (by linarith [one_le_slack]) (by positivity)
    _ ≤ (2 ^ 65 : Nat) := by norm_num
    _ ≤ largest := room

theorem first_quotient (least : 3 ≤ s) (fits : s < UInt64.size) :
    Approximates ((ofNat s).div (power 308)) quotientSlack (s / 10 ^ 308) := by
  obtain ⟨positive, nonzero, near⟩ := ofNat_significand (by omega) fits
  obtain ⟨positive', nonzero', _⟩ := power_approximates (k := 308) (by decide)
  obtain ⟨n, whole, small, hn⟩ := ofNat_rounds (by omega : 0 < s) (significand_le_largest fits)
  obtain ⟨m, quotient, rounds⟩ := div_rounds nonzero nonzero'
  have finite : m < infinityBits :=
    rounds.lt_infinity (mul_le_mul_of_nonneg_right (first_quotient_le_largest fits near) perOne_pos.le)
  obtain ⟨sign, positiveQuotient, _⟩ :=
    rounds.approximates finite (first_quotient_normal least near)
  rw [positive, positive', bne_self_eq_false, Nat.min_eq_left (Nat.le_of_lt finite)] at quotient
  rw [quotient]
  refine ⟨sign, positiveQuotient, ?_⟩
  have value : (ofNat s).value = grid n / perOne := by
    rw [whole, Binary64.value, magnitudeBits_ofMagnitude false (lt_signBit small)]
  rw [value, value_power_308, div_right_comm, div_mul_cancel₀ _ perOne_pos.ne'] at rounds
  have within := (first_quotient_within least hn rounds).scale (inv_nonneg.mpr perOne_pos.le)
  rw [← div_eq_mul_inv, ← div_eq_mul_inv, div_right_comm, mul_div_cancel_right₀ _ perOne_pos.ne']
    at within
  have meant := (Within.refl (s : ℚ)).div within_power_308 (Nat.cast_nonneg s) (Nat.cast_nonneg s)
    (value_pos nonzero') (pow_pos (Nat.cast_pos.mpr (by decide : 0 < 10)) 308)
  rw [value_power_308] at meant
  rw [Binary64.value, magnitudeBits_ofMagnitude false (lt_signBit finite)]
  apply (within.trans meant (by norm_num [divisionSlack, leadingBit]) ?_).mono
  · norm_num [quotientSlack, divisionSlack, slack308, leadingBit]
  · exact div_nonneg (Nat.cast_nonneg _) perOne_pos.le
  · exact div_nonneg (Nat.cast_nonneg s) (pow_nonneg (Nat.cast_nonneg 10) 308)
  · norm_num [slack308, leadingBit]

theorem scaled_twice_eq (positive : 0 < k) (le : k ≤ 35) (nonzero : (ofNat s).isZero = false) :
    scaled 8 (ofNat s) (-(308 + k : Nat)) =
      .ok (((ofNat s).div (power 308)).div (power k)) := by
  have exponent : (-(308 + k : Nat) : Int) + 308 = -(k : Int) := by omega
  have range : ¬ (0 ≤ (-(308 + k : Nat) : Int) ∧ (-(308 + k : Nat) : Int) ≤ 308) := by omega
  have range₁ : ¬ (-308 ≤ (-(308 + k : Nat) : Int) ∧ (-(308 + k : Nat) : Int) < 0) := by omega
  have range₂ : ¬ 0 ≤ (-(308 + k : Nat) : Int) := by omega
  have range₃ : ¬ (0 ≤ -(k : Int) ∧ -(k : Int) ≤ 308) := by omega
  have range₄ : -308 ≤ -(k : Int) ∧ -(k : Int) < 0 := by omega
  rw [scaled, if_neg range, if_neg range₁, nonzero, if_neg Bool.false_ne_true, if_neg range₂, exponent,
    scaled, if_neg range₃, if_pos range₄, neg_neg, Int.toNat_natCast]

/-- A normal number with a significand of 64 bits has no exponent below -330. -/
theorem few_of_normal (fits : s < UInt64.size)
    (normal : (leadingBit : ℚ) ≤ units s (-(308 + k : Nat))) : k ≤ 22 := by
  refine Nat.le_of_not_lt fun many => ?_
  have power : (0 : ℚ) < 10 ^ (308 + k) := by positivity
  rw [units, zpow_neg, zpow_natCast, ← div_eq_mul_inv, div_mul_eq_mul_div, le_div_iff₀ power] at normal
  have size : (s : ℚ) ≤ 2 ^ 64 := by exact_mod_cast Nat.le_of_lt fits
  have more : (10 : ℚ) ^ 331 ≤ 10 ^ (308 + k) := pow_le_pow_right₀ (by norm_num) (by omega)
  have scaled := mul_le_mul_of_nonneg_right size perOne_pos.le
  have least := mul_le_mul_of_nonneg_left more (Nat.cast_nonneg leadingBit : (0 : ℚ) ≤ leadingBit)
  have short : 2 ^ 64 * 2 ^ 1074 < leadingBit * 10 ^ 331 := by decide +kernel
  have shortQ : (2 ^ 64 * perOne : ℚ) < leadingBit * 10 ^ 331 := by
    rw [perOne]
    exact_mod_cast short
  exact absurd (least.trans (normal.trans scaled)) (not_le.mpr shortQ)

/-- What comes of a very small exponent, unless the significand is tiny. -/
theorem scaled_twice_of_le (least : 3 ≤ s) (fits : s < UInt64.size) (positive : 0 < k)
    (le : k ≤ 35) (ha : Rounds a (units s (-(308 + k : Nat)))) (room : a + 2 < infinityBits) :
    ∃ b, Becomes s (-(308 + k : Nat)) a b := by
  obtain ⟨_, nonzero, _⟩ := ofNat_significand (s := s) (by omega) fits
  obtain ⟨sign, nonzero₁, near⟩ := first_quotient least fits
  obtain ⟨sign', nonzero', near'⟩ := power_approximates (k := k) (by omega)
  obtain ⟨b, quotient, rounds⟩ := div_rounds nonzero₁ nonzero'
  have decimal : (s / 10 ^ 308 / 10 ^ k : ℚ) = s * 10 ^ (-(308 + k : Nat) : Int) := by
    rw [div_div, ← pow_add, zpow_neg, zpow_natCast, div_eq_mul_inv]
  have one := one_le_slack
  have both : 1 ≤ quotientSlack := by norm_num [quotientSlack, leadingBit]
  have first := (value_pos nonzero₁).le
  have meant : 0 ≤ (s / 10 ^ 308 : ℚ) :=
    div_nonneg (Nat.cast_nonneg s) (pow_nonneg (Nat.cast_nonneg 10) 308)
  have units_eq : (s / 10 ^ 308 / 10 ^ k : ℚ) * perOne = units s (-(308 + k : Nat)) := by
    rw [decimal, units]
  have close : b ≤ a + 2 ∧ a ≤ b + 2 := by
    rcases le_or_gt (leadingBit : ℚ) (units s (-(308 + k : Nat))) with normal | small
    · -- The second power is small enough to be exact.
      have exact := power_exact (few_of_normal fits normal)
      have second := Within.refl ((10 : ℚ) ^ k)
      rw [← exact] at second
      have within := near.div second first meant (value_pos nonzero') (value_pos nonzero')
      rw [exact] at within rounds
      have scaled := within.symm.scale perOne_pos.le
      rw [units_eq] at scaled
      apply ha.steps rounds scaled (both.trans (mul_one _).ge)
      norm_num [slack, quotientSlack, leadingBit]
    · have within := near.div near' first meant (value_pos nonzero')
        (pow_pos (Nat.cast_pos.mpr (by decide : 0 < 10)) k)
      have scaled := within.symm.scale perOne_pos.le
      rw [units_eq] at scaled
      apply ha.steps_of_small rounds scaled (one_le_mul_of_one_le_of_one_le both one) small.le
      norm_num [slack, quotientSlack, leadingBit]
  rw [sign, sign', bne_self_eq_false, Nat.min_eq_left (by omega)] at quotient
  exact ⟨b, by omega, (scaled_twice_eq positive le nonzero).trans (congrArg _ quotient), close.1,
    close.2, fun _ small _ => by omega⟩

/-- All cases of a very small exponent with a significand of one or two, whose first quotient is
subnormal. -/
theorem tiny_quotients : ∀ s < 2, ∀ k < 35,
    let a := (ofRatio false (s + 1) (10 ^ (308 + (k + 1)))).magnitudeBits
    let x := ((ofNat (s + 1)).div (power 308)).div (power (k + 1))
    x = ofMagnitude false x.magnitudeBits ∧ x.magnitudeBits < infinityBits ∧
      x.magnitudeBits ≤ a + 2 ∧ a ≤ x.magnitudeBits + 2 := by
  decide +kernel

theorem scaled_twice_of_tiny (pos : 0 < s) (tiny : s < 3) (positive : 0 < k) (le : k ≤ 35)
    (ha : Rounds a (units s (-(308 + k : Nat)))) (room : a + 2 < infinityBits) :
    ∃ b, Becomes s (-(308 + k : Nat)) a b := by
  obtain ⟨_, nonzero, _⟩ := ofNat_significand pos (Nat.lt_trans tiny (by decide))
  obtain ⟨m, nearest, rounds⟩ := ofRatio_rounds false pos (Nat.pow_pos (n := 308 + k) (by decide : 0 < 10))
  rw [← units_neg] at rounds
  obtain rfl : a = m := ha.unique rounds
  obtain ⟨s, rfl⟩ := Nat.exists_eq_succ_of_ne_zero (Nat.ne_of_gt pos)
  obtain ⟨k, rfl⟩ := Nat.exists_eq_succ_of_ne_zero (Nat.ne_of_gt positive)
  obtain ⟨same, finite, above, below⟩ := tiny_quotients s (by omega) k (by omega)
  rw [Nat.succ_eq_add_one, Nat.succ_eq_add_one, Nat.min_eq_left (by omega)] at nearest
  rw [nearest, magnitudeBits_ofMagnitude false (lt_signBit (by omega))] at above below
  refine ⟨_, finite, (scaled_twice_eq positive le nonzero).trans (congrArg _ same), ?_, ?_, ?_⟩
  · exact above
  · exact below
  · intro _ small
    omega

/-- A decimal with a smaller exponent becomes zero. -/
theorem exponent_ge {e : Int} (fits : s < UInt64.size) (ha : Rounds a (units s e)) (some : 0 < a) :
    -343 ≤ e := by
  by_contra low
  obtain ⟨k, rfl⟩ : ∃ k : Nat, e = -(344 + k : Nat) := ⟨(-e - 344).toNat, by omega⟩
  have least : (1 : ℚ) ≤ grid a := Nat.one_le_cast.mpr (grid_strictMono some)
  have half := ha.lower
  have prior : (0 : ℚ) ≤ grid (a - 1) := Nat.cast_nonneg _
  have positive : (0 : ℚ) < (10 ^ (344 + k) : Nat) := Nat.cast_pos.mpr (Nat.pow_pos (by decide))
  have bound : (1 : ℚ) ≤ 2 * (s * perOne) / (10 ^ (344 + k) : Nat) := by
    rw [units_neg] at half
    rw [mul_div_assoc, mul_div_right_comm]
    linarith
  rw [le_div_iff₀ positive, one_mul] at bound
  have size : (s * perOne : ℚ) ≤ UInt64.size * perOne :=
    mul_le_mul_of_nonneg_right (Nat.cast_le.mpr (Nat.le_of_lt fits)) perOne_pos.le
  have whole : ((2 * (UInt64.size * 2 ^ 1074) : Nat) : ℚ) = 2 * (UInt64.size * perOne) := by
    rw [perOne, Nat.cast_mul, Nat.cast_mul, Nat.cast_pow, Nat.cast_ofNat]
  have long : ((10 ^ (344 + k) : Nat) : ℚ) ≤ (2 * (UInt64.size * 2 ^ 1074) : Nat) := by
    rw [whole]
    linarith
  have many : 2 * (UInt64.size * 2 ^ 1074) < 10 ^ 344 := by decide +kernel
  have more := pow_le_pow_right₀ (show 1 ≤ 10 by decide) (Nat.le_add_right 344 k)
  exact Nat.not_lt.mpr (Nat.cast_le.mp long) (Nat.lt_of_lt_of_le many more)

theorem grid_infinityBits : (grid infinityBits : ℚ) = (2 ^ 1024 : Nat) * perOne := by
  have last : infinityBits = 2046 * leadingBit + leadingBit := by decide
  have bit : leadingBit = 2 ^ 52 := by decide
  rw [last, grid_scaled (by decide) (.inr (by decide)), perOne, Nat.cast_mul, Nat.cast_pow,
    Nat.cast_pow, Nat.cast_ofNat, ← pow_add, bit, Nat.cast_pow, Nat.cast_ofNat, ← pow_add]

/-- A decimal with a larger exponent becomes infinite. -/
theorem exponent_le {e : Int} (pos : 0 < s) (ha : Rounds a (units s e)) (room : a < infinityBits) :
    e ≤ 308 := by
  by_contra high
  obtain ⟨k, rfl⟩ : ∃ k : Nat, e = (309 + k : Nat) := ⟨(e - 309).toNat, by omega⟩
  have one : (1 : ℚ) ≤ s := Nat.one_le_cast.mpr pos
  have most : (grid (a + 1) : ℚ) ≤ grid infinityBits := Nat.cast_le.mpr (grid_le room)
  have level : (grid a : ℚ) ≤ grid (a + 1) := Nat.cast_le.mpr (grid_le (Nat.le_succ a))
  have twice := ha.upper
  have first : ((10 ^ (309 + k) : Nat) : ℚ) * perOne ≤ units s (309 + k : Nat) := by
    rw [units, zpow_natCast, Nat.cast_pow, Nat.cast_ofNat]
    apply mul_le_mul_of_nonneg_right ?_ perOne_pos.le
    exact le_mul_of_one_le_left (pow_nonneg (Nat.cast_nonneg 10) _) one
  have large : ((10 ^ (309 + k) : Nat) : ℚ) * perOne ≤ (2 ^ 1024 : Nat) * perOne := by
    rw [← grid_infinityBits]
    linarith
  have long := Nat.cast_le.mp (le_of_mul_le_mul_right large perOne_pos)
  have many : 2 ^ 1024 < 10 ^ 309 := by decide +kernel
  have more := pow_le_pow_right₀ (show 1 ≤ 10 by decide) (Nat.le_add_right 309 k)
  exact Nat.not_lt.mpr long (Nat.lt_of_lt_of_le many more)

theorem becomes {e : Int} (pos : 0 < s) (fits : s < UInt64.size) (ha : Rounds a (units s e))
    (some : 0 < a) (room : a + 2 < infinityBits) : ∃ b, Becomes s e a b := by
  have least := exponent_ge fits ha some
  have most := exponent_le pos ha (by omega)
  rcases le_or_gt 0 e with up | down
  · obtain ⟨k, rfl⟩ := Int.eq_ofNat_of_zero_le up
    exact scaled_up pos fits (by omega) ha room
  · rcases le_or_gt (-308) e with mild | low
    · obtain ⟨k, rfl⟩ : ∃ k : Nat, e = -k := ⟨(-e).toNat, by omega⟩
      exact scaled_down pos fits (by omega) (by omega) ha room
    · obtain ⟨k, rfl⟩ : ∃ k : Nat, e = -(308 + k : Nat) := ⟨(-e - 308).toNat, by omega⟩
      rcases Nat.lt_or_ge s 3 with tiny | least
      · exact scaled_twice_of_tiny pos tiny (by omega) (by omega) ha room
      · exact scaled_twice_of_le least fits (by omega) (by omega) ha room

end Scaled

end Json.Numeral
end SensorFleet
