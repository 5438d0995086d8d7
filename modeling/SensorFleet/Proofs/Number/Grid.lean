import Mathlib.Tactic.Linarith
import Mathlib.Tactic.Ring
import SensorFleet.Number.Binary64

/-!
The grid of the finite doubles. Their magnitudes, counted by their bits, are multiples of the least
positive one; from each to the next it is one unit, which doubles at every power of two.
-/
namespace SensorFleet.Binary64

/-- The distance from a magnitude to the next one, in units of the least positive number. -/
def gridUnit (m : Nat) : Nat := 2 ^ (m / leadingBit - 1)

/-- The magnitude with the given bits, in units of the least positive number. -/
def grid (m : Nat) : Nat :=
  (if m / leadingBit = 0 then m else m % leadingBit + leadingBit) * gridUnit m

theorem leadingBit_pos : 0 < leadingBit := by decide

theorem gridUnit_pos (m : Nat) : 0 < gridUnit m := Nat.pow_pos (by decide)

theorem gridUnit_mono {a b : Nat} (h : a ≤ b) : gridUnit a ≤ gridUnit b :=
  Nat.pow_le_pow_right (by decide) (Nat.sub_le_sub_right (Nat.div_le_div_right h) 1)

/-- Significands count units of the scale, also at either end of their range. -/
theorem grid_scaled {t k : Nat} (most : k ≤ 2 * leadingBit) (least : t = 0 ∨ leadingBit ≤ k) :
    grid (t * leadingBit + k) = k * 2 ^ t := by
  have pos := leadingBit_pos
  rcases Nat.lt_or_ge k leadingBit with small | normal
  · obtain rfl : t = 0 := least.resolve_right (Nat.not_le_of_lt small)
    simp [grid, gridUnit, Nat.div_eq_of_lt small]
  · obtain ⟨low, rfl⟩ := Nat.exists_eq_add_of_le normal
    rcases Nat.lt_or_ge low leadingBit with inside | full
    · have field : (t * leadingBit + (leadingBit + low)) / leadingBit = t + 1 := by
        rw [← Nat.add_assoc, ← Nat.succ_mul, Nat.mul_comm, Nat.mul_add_div pos,
          Nat.div_eq_of_lt inside, Nat.add_zero]
      have rest : (t * leadingBit + (leadingBit + low)) % leadingBit = low := by
        rw [← Nat.add_assoc, ← Nat.succ_mul, Nat.mul_comm, Nat.mul_add_mod, Nat.mod_eq_of_lt inside]
      simp [grid, gridUnit, field, rest, Nat.add_comm low]
    · obtain rfl : low = leadingBit := by omega
      have field : (t * leadingBit + (leadingBit + leadingBit)) / leadingBit = t + 2 := by
        rw [show t * leadingBit + (leadingBit + leadingBit) = leadingBit * (t + 2) by ring,
          Nat.mul_div_cancel_left _ pos]
      have rest : (t * leadingBit + (leadingBit + leadingBit)) % leadingBit = 0 := by
        rw [show t * leadingBit + (leadingBit + leadingBit) = leadingBit * (t + 2) by ring,
          Nat.mul_mod_right]
      simp [grid, gridUnit, field, rest]
      ring

/-- Every magnitude has a scale and a significand. -/
theorem exists_scaled (m : Nat) : ∃ t k, m = t * leadingBit + k ∧ k < 2 * leadingBit ∧
    (t = 0 ∨ leadingBit ≤ k) ∧ gridUnit m = 2 ^ t := by
  have pos := leadingBit_pos
  have split := Nat.div_add_mod m leadingBit
  have low := Nat.mod_lt m pos
  rcases Nat.eq_zero_or_pos (m / leadingBit) with zero | normal
  · refine ⟨0, m, (Nat.zero_add m ▸ by simp), ?_, .inl rfl, by simp [gridUnit, zero]⟩
    rw [zero] at split
    omega
  · obtain ⟨t, field⟩ := Nat.exists_eq_succ_of_ne_zero (Nat.ne_of_gt normal)
    refine ⟨t, m % leadingBit + leadingBit, ?_, by omega, .inr (by omega), by simp [gridUnit, field]⟩
    rw [field, Nat.succ_eq_add_one, Nat.mul_add, Nat.mul_one] at split
    rw [Nat.mul_comm t]
    omega

theorem grid_succ (m : Nat) : grid (m + 1) = grid m + gridUnit m := by
  obtain ⟨t, k, rfl, most, least, unit⟩ := exists_scaled m
  rw [unit, grid_scaled (Nat.le_of_lt most) least, Nat.add_assoc,
    grid_scaled most (least.imp_right (Nat.le_trans · (Nat.le_succ k))), Nat.succ_mul]

theorem grid_lt_succ (m : Nat) : grid m < grid (m + 1) :=
  grid_succ m ▸ Nat.lt_add_of_pos_right (gridUnit_pos m)

theorem grid_strictMono : StrictMono grid := strictMono_nat_of_lt_succ grid_lt_succ

theorem grid_le {a b : Nat} (h : a ≤ b) : grid a ≤ grid b := grid_strictMono.monotone h

theorem grid_add_le (m n : Nat) : grid m + n * gridUnit m ≤ grid (m + n) := by
  induction n with
  | zero => simp
  | succ n ih =>
    have unit := gridUnit_mono (Nat.le_add_right m n)
    rw [← Nat.add_assoc, grid_succ, Nat.succ_mul]
    omega

/-- A magnitude has at most 53 bits in units of the distance to it. -/
theorem grid_succ_le (m : Nat) : grid (m + 1) ≤ 2 * leadingBit * gridUnit m := by
  obtain ⟨t, k, rfl, most, least, unit⟩ := exists_scaled m
  rw [grid_succ, grid_scaled (Nat.le_of_lt most) least, unit, ← Nat.succ_mul]
  exact Nat.mul_le_mul_right _ most

theorem grid_zero : grid 0 = 0 := rfl

/-- The unit below a magnitude is the unit above it, or half of that at a power of two. -/
theorem gridUnit_prior {m : Nat} (pos : 0 < m) : gridUnit m =
    (if m % leadingBit = 0 ∧ 1 < m / leadingBit then 2 else 1) * gridUnit (m - 1) := by
  obtain ⟨m, rfl⟩ := Nat.exists_eq_succ_of_ne_zero (Nat.ne_of_gt pos)
  have split : (m + 1) / leadingBit = _ := Nat.succ_div
  rw [Nat.succ_eq_add_one, Nat.add_sub_cancel, gridUnit, gridUnit, split]
  by_cases turn : leadingBit ∣ m + 1
  · have rest : (m + 1) % leadingBit = 0 := Nat.mod_eq_zero_of_dvd turn
    rw [if_pos turn]
    rcases Nat.eq_zero_or_pos (m / leadingBit) with zero | normal
    · simp [zero]
    · rw [if_pos ⟨rest, by omega⟩, Nat.add_sub_cancel, ← Nat.pow_succ']
      congr 1
      omega
  · rw [if_neg turn, if_neg (fun h => turn (Nat.dvd_of_mod_eq_zero h.1)), Nat.one_mul, Nat.add_zero]

end SensorFleet.Binary64
