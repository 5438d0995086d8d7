import Mathlib.Algebra.Order.Archimedean.Basic
import Mathlib.Data.Rat.Floor
import SensorFleet.Json.Numeral
import SensorFleet.Proofs.Number.Rounding

/-!
How far arithmetic on doubles strays. Each rounding changes a normal number by a factor of at most
`1 + 2 ^ (-53)`; when a few such factors are made good at most that many steps lie between the
double that was meant and the one that comes out.
-/
namespace SensorFleet.Binary64

/-- Neither number exceeds the other by more than a factor. -/
def Within (c a b : ℚ) : Prop := a ≤ b * c ∧ b ≤ a * c

namespace Within
variable {c c' a a' b b' : ℚ}

theorem refl (a : ℚ) : Within 1 a a := ⟨(mul_one a).ge, (mul_one a).ge⟩

theorem scale (h : Within c a b) {k : ℚ} (pos : 0 ≤ k) : Within c (a * k) (b * k) := by
  constructor
  · linarith [mul_le_mul_of_nonneg_right h.1 pos]
  · linarith [mul_le_mul_of_nonneg_right h.2 pos]

theorem mono (h : Within c a b) (le : c ≤ c') (ha : 0 ≤ a) (hb : 0 ≤ b) : Within c' a b :=
  ⟨h.1.trans (mul_le_mul_of_nonneg_left le hb), h.2.trans (mul_le_mul_of_nonneg_left le ha)⟩

theorem symm (h : Within c a b) : Within c b a := ⟨h.2, h.1⟩

theorem trans {d : ℚ} (h : Within c a b) (h' : Within c' b d) (pos : 0 ≤ c) (pos' : 0 ≤ c') :
    Within (c * c') a d := by
  constructor
  · calc a ≤ b * c := h.1
      _ ≤ d * c' * c := mul_le_mul_of_nonneg_right h'.1 pos
      _ = d * (c * c') := by ring
  · calc d ≤ b * c' := h'.2
      _ ≤ a * c * c' := mul_le_mul_of_nonneg_right h.2 pos'
      _ = a * (c * c') := by ring

theorem mul (h : Within c a b) (h' : Within c' a' b') (ha : 0 ≤ a) (hb : 0 ≤ b) (ha' : 0 ≤ a')
    (hb' : 0 ≤ b') : Within (c * c') (a * a') (b * b') := by
  constructor
  · calc a * a' ≤ b * c * (b' * c') := mul_le_mul h.1 h'.1 ha' (ha.trans h.1)
      _ = b * b' * (c * c') := by ring
  · calc b * b' ≤ a * c * (a' * c') := mul_le_mul h.2 h'.2 hb' (hb.trans h.2)
      _ = a * a' * (c * c') := by ring

theorem inv (h : Within c a b) (ha : 0 < a) (hb : 0 < b) : Within c a⁻¹ b⁻¹ := by
  constructor
  · rw [inv_eq_one_div, inv_mul_eq_div, div_le_div_iff₀ ha hb]
    linarith [h.2]
  · rw [inv_eq_one_div, inv_mul_eq_div, div_le_div_iff₀ hb ha]
    linarith [h.1]

theorem div (h : Within c a b) (h' : Within c' a' b') (ha : 0 ≤ a) (hb : 0 ≤ b) (ha' : 0 < a')
    (hb' : 0 < b') : Within (c * c') (a / a') (b / b') := by
  rw [div_eq_mul_inv, div_eq_mul_inv]
  exact h.mul (h'.inv ha' hb') ha hb (inv_nonneg.mpr ha'.le) (inv_nonneg.mpr hb'.le)

end Within

/-- The factor of one rounding. -/
def slack : ℚ := 1 + 1 / (2 * leadingBit)

section Rounds
variable {a b j : Nat} {r r' c : ℚ}

/-- Up to the end of its binade a ratio changes by half a unit at most. -/
theorem Rounds.error (h : Rounds a r) (most : r ≤ 2 * leadingBit * 2 ^ j) :
    2 * (r - grid a) ≤ 2 ^ j ∧ 2 * (grid a - r) ≤ 2 ^ j := by
  have nonneg : (0 : ℚ) ≤ 2 ^ j := by positivity
  have edge : (grid ((j + 1) * leadingBit + leadingBit) : ℚ) = 2 * leadingBit * 2 ^ j := by
    rw [grid_scaled (by decide) (.inr (Nat.le_refl _)), Nat.pow_succ]
    push_cast
    ring
  have unit {m : Nat} (inside : (grid m : ℚ) < 2 * leadingBit * 2 ^ j) :
      (gridUnit m : ℚ) ≤ 2 ^ j := by
    rw [← edge, Nat.cast_lt, grid_strictMono.lt_iff_lt, ← Nat.succ_mul,
      ← Nat.div_lt_iff_lt_mul leadingBit_pos] at inside
    have power : gridUnit m ≤ 2 ^ j := Nat.pow_le_pow_right (by decide) (by omega)
    exact_mod_cast power
  constructor
  · rcases lt_or_ge (grid a : ℚ) (2 * leadingBit * 2 ^ j) with inside | beyond
    · have upper := h.upper
      have succ : (grid (a + 1) : ℚ) = grid a + gridUnit a := by exact_mod_cast grid_succ a
      linarith [unit inside]
    · linarith
  · rcases le_or_gt (grid a : ℚ) r with under | above
    · linarith
    · have lower := h.lower
      have inside : (grid (a - 1) : ℚ) < 2 * leadingBit * 2 ^ j := by linarith
      rcases Nat.eq_zero_or_pos a with rfl | positive
      · linarith
      · obtain ⟨m, rfl⟩ := Nat.exists_eq_succ_of_ne_zero (Nat.ne_of_gt positive)
        rw [Nat.succ_eq_add_one, Nat.add_sub_cancel] at lower inside
        have succ : (grid (m + 1) : ℚ) = grid m + gridUnit m := by exact_mod_cast grid_succ m
        rw [Nat.succ_eq_add_one] at *
        linarith [unit inside]

/-- A ratio of at least `k` units changes by less than the `k`-th part of half of it. -/
theorem Rounds.within_binade {k : Nat} (h : Rounds a r) (most : r ≤ 2 * leadingBit * 2 ^ j)
    (least : k * 2 ^ j ≤ r) (pos : 0 < k) (few : k ≤ 2 * leadingBit) :
    Within (1 + 1 / (2 * k)) (grid a) r := by
  obtain ⟨above, below⟩ := h.error most
  have least' := h.bounded_below few least
  have positive : (0 : ℚ) < 2 * k := by exact_mod_cast Nat.mul_pos two_pos pos
  have factor (x : ℚ) : x * (1 + 1 / (2 * k)) = x + x / (2 * k) := by ring
  have part {x : ℚ} (hx : (k * 2 ^ j : ℚ) ≤ x) : (2 : ℚ) ^ j / 2 ≤ x / (2 * k) := by
    rw [div_le_div_iff₀ two_pos positive]
    linarith
  rw [Within, factor, factor]
  constructor
  · linarith [part least]
  · linarith [part least']

/-- The power of two below a normal number. -/
theorem exists_binade (normal : (leadingBit : ℚ) ≤ r) :
    ∃ j : Nat, leadingBit * 2 ^ j ≤ r ∧ r < 2 * leadingBit * 2 ^ j := by
  have bit : (0 : ℚ) < leadingBit := Nat.cast_pos.mpr leadingBit_pos
  obtain ⟨j, least, most⟩ := exists_nat_pow_near ((one_le_div bit).mpr normal) one_lt_two
  rw [le_div_iff₀ bit] at least
  rw [div_lt_iff₀ bit, pow_succ] at most
  exact ⟨j, by linarith, by linarith⟩

/-- A normal number changes by less than the factor when it is rounded. -/
theorem Rounds.within (h : Rounds a r) (normal : (leadingBit : ℚ) ≤ r) :
    Within slack (grid a) r := by
  obtain ⟨j, least, most⟩ := exists_binade normal
  exact h.within_binade most.le least leadingBit_pos (by decide)

/-- If the second ratio exceeds the first one by less than `j` units, it is rounded to a magnitude
at most `j` steps further. -/
theorem Rounds.le_add (ha : Rounds a r) (hb : (grid (b - 1) + grid b : ℚ) ≤ 2 * r')
    (near : r' < r + j * gridUnit a) : b ≤ a + j := by
  refine Nat.le_of_not_lt fun above => ?_
  have first : grid a + j * gridUnit a ≤ grid (b - 1) :=
    (grid_add_le a j).trans (grid_le (by omega))
  have second : grid (a + 1) + j * gridUnit a ≤ grid b := by
    have units := Nat.mul_le_mul_left j (gridUnit_mono (Nat.le_succ a))
    exact (Nat.add_le_add_left units _).trans ((grid_add_le (a + 1) j).trans (grid_le (by omega)))
  have upper := ha.upper
  have firstQ : (grid a + j * gridUnit a : ℚ) ≤ grid (b - 1) := by exact_mod_cast first
  have secondQ : (grid (a + 1) + j * gridUnit a : ℚ) ≤ grid b := by exact_mod_cast second
  linarith

end Rounds

/-! ### Operations -/

def value (x : Binary64) : ℚ := grid x.magnitudeBits / perOne

theorem ofMagnitude_toNat (negative : Bool) {m : Nat} (small : m < signBit) :
    (ofMagnitude negative m).bits.toNat = m + if negative then signBit else 0 := by
  have fits : m + (if negative then signBit else 0) < UInt64.size := by
    have size : signBit + signBit = UInt64.size := by decide
    split <;> omega
  rw [ofMagnitude, Nat.toUInt64_eq, UInt64.toNat_ofNat_of_lt' fits]

@[simp] theorem magnitudeBits_ofMagnitude (negative : Bool) {m : Nat} (small : m < signBit) :
    (ofMagnitude negative m).magnitudeBits = m := by
  rw [magnitudeBits, ofMagnitude_toNat negative small]
  cases negative with
  | false => exact Nat.mod_eq_of_lt small
  | true => rw [if_pos rfl, Nat.add_mod_right, Nat.mod_eq_of_lt small]

@[simp] theorem isNegative_ofMagnitude (negative : Bool) {m : Nat} (small : m < signBit) :
    (ofMagnitude negative m).isNegative = negative := by
  rw [isNegative, ofMagnitude_toNat negative small]
  cases negative <;> simp [small]

theorem ofMagnitude_eq (x : Binary64) : ofMagnitude x.isNegative x.magnitudeBits = x := by
  obtain ⟨bits⟩ := x
  have size : bits.toNat < 2 * signBit := bits.toNat_lt
  have whole : bits.toNat % signBit + (if decide (signBit ≤ bits.toNat) = true then signBit else 0) =
      bits.toNat := by
    simp only [decide_eq_true_eq]
    split
    · rw [Nat.mod_eq_sub_mod (by assumption), Nat.mod_eq_of_lt (by omega)]
      omega
    · rw [Nat.mod_eq_of_lt (by omega), Nat.add_zero]
  rw [ofMagnitude, isNegative, magnitudeBits, whole, Nat.toUInt64_eq, UInt64.ofNat_toNat]

theorem two_zpow_scale (x : Binary64) : (2 : ℚ) ^ x.scale = gridUnit x.magnitudeBits / perOne := by
  have split : x.scale = ((x.magnitudeBits / leadingBit - 1 : Nat) : Int) - (1074 : Nat) := by
    simp only [scale, exponentField]
    omega
  rw [split, zpow_sub₀ two_ne_zero, zpow_natCast, zpow_natCast, gridUnit, Nat.cast_pow, perOne,
    Nat.cast_ofNat]

theorem grid_magnitudeBits (x : Binary64) :
    grid x.magnitudeBits = x.significand * gridUnit x.magnitudeBits := rfl

theorem ratio_value (x : Binary64) : (x.ratio.1 / x.ratio.2 : ℚ) = x.value := by
  rw [ratio, shift_ratio, value, two_zpow_scale, grid_magnitudeBits]
  push_cast
  ring

theorem ratio_pos (x : Binary64) : 0 < x.ratio.2 := shift_pos _ Nat.one_pos _

theorem value_pos {x : Binary64} (h : x.isZero = false) : 0 < x.value := by
  have some : 0 < x.magnitudeBits := by
    rw [isZero, decide_eq_false_iff_not] at h
    exact Nat.pos_of_ne_zero h
  have positive : (0 : ℚ) < grid x.magnitudeBits := Nat.cast_pos.mpr (grid_strictMono some)
  exact div_pos positive perOne_pos

theorem ratio_fst_pos {x : Binary64} (h : x.isZero = false) : 0 < x.ratio.1 := by
  have positive := value_pos h
  rw [← ratio_value] at positive
  refine Nat.pos_of_ne_zero fun zero => ?_
  simp [zero] at positive

theorem mul_rounds {x y : Binary64} (hx : x.isZero = false) (hy : y.isZero = false) : ∃ m,
    x.mul y = ofMagnitude (x.isNegative != y.isNegative) (min m infinityBits) ∧
      Rounds m (x.value * y.value * perOne) := by
  obtain ⟨m, product, rounds⟩ := ofRatio_rounds (x.isNegative != y.isNegative)
    (Nat.mul_pos (ratio_fst_pos hx) (ratio_fst_pos hy)) (Nat.mul_pos x.ratio_pos y.ratio_pos)
  refine ⟨m, product, ?_⟩
  rwa [Nat.cast_mul, Nat.cast_mul, mul_div_mul_comm, ratio_value, ratio_value] at rounds

theorem div_rounds {x y : Binary64} (hx : x.isZero = false) (hy : y.isZero = false) : ∃ m,
    x.div y = ofMagnitude (x.isNegative != y.isNegative) (min m infinityBits) ∧
      Rounds m (x.value / y.value * perOne) := by
  obtain ⟨m, quotient, rounds⟩ := ofRatio_rounds (x.isNegative != y.isNegative)
    (Nat.mul_pos (ratio_fst_pos hx) y.ratio_pos) (Nat.mul_pos x.ratio_pos (ratio_fst_pos hy))
  refine ⟨m, quotient, ?_⟩
  have swap : (x.ratio.1 * y.ratio.2 / (x.ratio.2 * y.ratio.1) : ℚ) =
      x.ratio.1 / x.ratio.2 / (y.ratio.1 / y.ratio.2) := by
    rw [div_div_div_eq]
  rwa [Nat.cast_mul, Nat.cast_mul, swap, ratio_value, ratio_value] at rounds

theorem ofNat_rounds {n : Nat} (pos : 0 < n) (most : n ≤ largest) : ∃ m,
    ofNat n = ofMagnitude false m ∧ m < infinityBits ∧ Rounds m (n * perOne) := by
  obtain ⟨m, whole, rounds⟩ := ofRatio_rounds false pos Nat.one_pos
  rw [Nat.cast_one, div_one] at rounds
  have finite : m < infinityBits := by
    refine rounds.lt_infinity (mul_le_mul_of_nonneg_right ?_ perOne_pos.le)
    exact Nat.cast_le.mpr most
  rw [Nat.min_eq_left (Nat.le_of_lt finite)] at whole
  exact ⟨m, whole, finite, rounds⟩

theorem leadingBit_le_perOne : (leadingBit : ℚ) ≤ perOne := by
  have power : leadingBit = 2 ^ 52 := by decide
  rw [power, perOne, Nat.cast_pow, Nat.cast_ofNat]
  exact pow_le_pow_right₀ one_le_two (by decide)

structure Approximates (x : Binary64) (c r : ℚ) : Prop where
  positive : x.isNegative = false
  nonzero : x.isZero = false
  within : Within c x.value r

theorem lt_signBit {m : Nat} (finite : m < infinityBits) : m < signBit :=
  Nat.lt_trans finite (by decide)

theorem Rounds.approximates {m : Nat} {r : ℚ} (h : Rounds m (r * perOne))
    (finite : m < infinityBits) (normal : (leadingBit : ℚ) ≤ r * perOne) :
    Approximates (ofMagnitude false m) slack r := by
  obtain ⟨least, greatest⟩ := h.within normal
  refine ⟨isNegative_ofMagnitude false (lt_signBit finite), ?_, ?_⟩
  · rw [isZero, magnitudeBits_ofMagnitude false (lt_signBit finite), decide_eq_false_iff_not]
    rintro rfl
    rw [grid_zero, Nat.cast_zero, zero_mul] at greatest
    have positive : (0 : ℚ) < leadingBit := Nat.cast_pos.mpr leadingBit_pos
    linarith
  · rw [value, magnitudeBits_ofMagnitude false (lt_signBit finite)]
    constructor
    · rw [div_le_iff₀ perOne_pos]
      linarith
    · rw [div_mul_eq_mul_div, le_div_iff₀ perOne_pos]
      exact greatest

theorem ofNat_approximates {n : Nat} (pos : 0 < n) (most : n ≤ largest) :
    Approximates (ofNat n) slack n := by
  obtain ⟨m, whole, finite, rounds⟩ := ofNat_rounds pos most
  rw [whole]
  exact rounds.approximates finite
    (leadingBit_le_perOne.trans (le_mul_of_one_le_left perOne_pos.le (Nat.one_le_cast.mpr pos)))

/-- A number of at most 53 bits, times a power of two, becomes a double without rounding. -/
theorem value_ofNat_exact {n k t : Nat} (pos : 0 < n) (most : n ≤ largest)
    (few : k ≤ 2 * leadingBit) (whole : n = k * 2 ^ t) : (ofNat n).value = n := by
  obtain ⟨m, same, finite, rounds⟩ := ofNat_rounds pos most
  obtain ⟨a, ha⟩ := exists_grid (t + 1074) few
  have exact : (n * perOne : ℚ) = grid a := by
    rw [ha, whole, perOne, Nat.cast_mul, Nat.cast_mul, Nat.cast_pow, Nat.cast_pow, Nat.cast_ofNat,
      pow_add, mul_assoc]
  obtain rfl : m = a := rounds.unique (exact ▸ rounds_grid a)
  rw [same, value, magnitudeBits_ofMagnitude false (lt_signBit finite), ← exact,
    mul_div_cancel_right₀ _ perOne_pos.ne']

end SensorFleet.Binary64
