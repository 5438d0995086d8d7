import Mathlib.Tactic.SplitIfs
import SensorFleet.Time.Calendar

/-!
Days and dates determine each other. The years of an era are found by one division, which is right
because its dividend grows with the days and is right on the first and the last day of each year.
-/
namespace SensorFleet.CivilDate

section Year

/-- The day of the era on which a year of the era begins, a first of March. -/
def yearStart (y : Nat) : Nat := 365 * y + y / 4 - y / 100

/-- The days of an era without the leap days before them, of which the last one counts. -/
def leaplessDays (day : Nat) : Nat := day - day / 1460 + day / 36524 - day / 146096

theorem leaplessDays_mono {a b : Nat} (h : a ≤ b) (small : b < 146097) :
    leaplessDays a ≤ leaplessDays b := by
  unfold leaplessDays
  have : a / 36524 - a / 146096 ≤ b / 36524 - b / 146096 := by omega
  omega

theorem leaplessDays_yearStart : ∀ y < 400, 365 * y ≤ leaplessDays (yearStart y) ∧
    leaplessDays (yearStart (y + 1) - 1) < 365 * (y + 1) := by
  decide +kernel

/-- The year of a day of the era, and that the day is in it. -/
theorem yearStart_spec {day y : Nat} (small : day < 146097) (year : leaplessDays day / 365 = y) :
    y < 400 ∧ yearStart y ≤ day ∧ (y < 399 → day < yearStart (y + 1)) := by
  have most : leaplessDays day ≤ 145999 := leaplessDays_mono (Nat.le_of_lt_succ small) (by decide)
  have last : y < 400 := by omega
  refine ⟨last, Nat.le_of_not_lt fun below => ?_, fun inner => Nat.lt_of_not_le fun above => ?_⟩
  · obtain ⟨k, rfl⟩ : ∃ k, y = k + 1 := by
      refine ⟨y - 1, (Nat.sub_add_cancel (Nat.pos_of_ne_zero ?_)).symm⟩
      rintro rfl
      exact Nat.not_lt_zero _ below
    have before := leaplessDays_mono (Nat.le_sub_one_of_lt below) (by unfold yearStart; omega)
    have bound := (leaplessDays_yearStart k (by omega)).2
    omega
  · have after := leaplessDays_mono above small
    have bound := (leaplessDays_yearStart (y + 1) (by omega)).1
    omega

/-- A year has a day more if it ends in a leap day. -/
theorem yearStart_succ : ∀ y < 399, yearStart (y + 1) ≤ yearStart y + 366 ∧
    (yearStart (y + 1) = yearStart y + 366 → (y + 1) % 4 = 0 ∧ (y + 1) % 100 ≠ 0) := by
  decide +kernel

end Year

/-! ### Months and days -/

/-- The month of a day of a year that begins in March, counted from zero. -/
def monthIndex (day : Nat) : Nat := (5 * day + 2) / 153

def monthOf (index : Nat) : Nat := if index < 10 then index + 3 else index - 9

def dayOfMonth (day : Nat) : Nat := day - (153 * monthIndex day + 2) / 5 + 1

/-- Only the last month may be short, by a day in a common year. -/
theorem month_spec : ∀ day < 366,
    (if monthOf (monthIndex day) ≤ 2 then monthOf (monthIndex day) + 9
      else monthOf (monthIndex day) - 3) = monthIndex day ∧
    (153 * monthIndex day + 2) / 5 + dayOfMonth day - 1 = day ∧
    1 ≤ monthOf (monthIndex day) ∧ monthOf (monthIndex day) ≤ 12 ∧
    dayOfMonth day ≤ monthLength 4 (monthOf (monthIndex day)) ∧
    (day < 365 → dayOfMonth day ≤ monthLength 1 (monthOf (monthIndex day))) ∧
    (day = 365 → monthOf (monthIndex day) = 2) := by
  decide +kernel

section Days
variable (days : Int)

/-- The parts of a day's date: the era, the year of the era and the day of the year. -/
theorem ofDays_spec : ∃ era : Int, ∃ y day : Nat,
    days + 719468 = era * 146097 + (yearStart y + day : Nat) ∧ y < 400 ∧ day < 366 ∧
    (day = 365 → isLeapYear (era * 400 + y + 1) = true) ∧
    ofDays days = ⟨if monthOf (monthIndex day) ≤ 2 then era * 400 + y + 1 else era * 400 + y,
      monthOf (monthIndex day), dayOfMonth day⟩ := by
  have small : ((days + 719468) % 146097).toNat < 146097 := by omega
  obtain ⟨last, begun, ends⟩ := yearStart_spec small rfl
  generalize hy : leaplessDays ((days + 719468) % 146097).toNat / 365 = y at last begun ends
  generalize hd : ((days + 719468) % 146097).toNat = dayOfEra at *
  obtain ⟨day, rfl⟩ := Nat.exists_eq_add_of_le begun
  have final : yearStart 399 = 145731 := rfl
  refine ⟨(days + 719468) / 146097, y, day, by omega, last, ?_, ?_, ?_⟩
  · rcases Nat.lt_or_ge y 399 with inner | outer
    · have next := (yearStart_succ y inner).1
      have := ends inner
      omega
    · obtain rfl : y = 399 := by omega
      omega
  · intro leap
    simp only [isLeapYear, Bool.and_eq_true, Bool.or_eq_true, decide_eq_true_eq]
    rcases Nat.lt_or_ge y 399 with inner | outer
    · obtain ⟨next, turns⟩ := yearStart_succ y inner
      have ends := ends inner
      have turn := turns (by omega)
      omega
    · omega
  · have year : (yearStart y + day - (yearStart y + day) / 1460 + (yearStart y + day) / 36524 -
        (yearStart y + day) / 146096) / 365 = y := hy
    have dayOfYear : yearStart y + day - (365 * y + y / 4 - y / 100) = day :=
      Nat.add_sub_cancel_left _ _
    simp only [ofDays, hd, year, dayOfYear]
    rfl

theorem monthLength_of_leap {y : Int} (leap : isLeapYear y = true) (m : Nat) :
    monthLength y m = monthLength 4 m := by
  have four : isLeapYear 4 = true := by decide
  rw [monthLength, monthLength, leap, four]

theorem monthLength_least (y : Int) (m : Nat) : monthLength 1 m ≤ monthLength y m := by
  have one : isLeapYear 1 = false := by decide
  rw [monthLength, monthLength, one]
  by_cases february : m = 2
  · rw [if_pos february, if_pos february, if_neg Bool.false_ne_true]
    split
    · decide
    · exact Nat.le_refl 28
  · apply Nat.le_of_eq
    rw [if_neg february, if_neg february]

theorem monthLength_le (y : Int) (m : Nat) : monthLength y m ≤ 31 := by
  unfold monthLength
  split_ifs <;> decide

theorem isValid_ofDays : (ofDays days).isValid = true := by
  obtain ⟨era, y, day, _, _, few, leap, date⟩ := ofDays_spec days
  obtain ⟨_, _, least, most, long, short, february⟩ := month_spec day few
  simp only [date, isValid, Bool.and_eq_true, decide_eq_true_eq]
  refine ⟨⟨⟨least, most⟩, Nat.le_add_left 1 _⟩, ?_⟩
  rcases Nat.lt_or_ge day 365 with inner | last
  · exact Nat.le_trans (short inner) (monthLength_least _ _)
  · obtain rfl : day = 365 := by omega
    rw [if_pos (Nat.le_of_eq (february rfl)), monthLength_of_leap (leap rfl)]
    exact long

theorem toDays_ofDays : (ofDays days).toDays = days := by
  obtain ⟨era, y, day, whole, last, few, _, date⟩ := ofDays_spec days
  obtain ⟨shifted, dayOfYear, _⟩ := month_spec day few
  rw [yearStart] at whole
  simp only [date, toDays, shifted, dayOfYear]
  split <;> omega

/-- The year turns on the 306th day after the first of March. -/
theorem monthOf_le_two : ∀ day < 366, monthOf (monthIndex day) ≤ 2 ↔ 306 ≤ day := by
  decide +kernel

theorem toDays_newYear (y : Int) : (⟨y, 1, 1⟩ : CivilDate).toDays + 719468 =
    (y - 1) / 400 * 146097 + (yearStart ((y - 1) % 400).toNat + 306 : Nat) := by
  have january : (1 : Nat) ≤ 2 := by decide
  unfold yearStart
  simp only [toDays, if_pos january]
  omega

theorem yearStart_lt {a b : Nat} (h : a < b) : yearStart a + 365 ≤ yearStart b := by
  have century (y : Nat) : y / 100 = y / 4 / 25 := (Nat.div_div_eq_div_mul y 4 25).symm
  have leaps : a / 4 ≤ b / 4 := Nat.div_le_div_right (Nat.le_of_lt h)
  unfold yearStart
  rw [century, century]
  omega

theorem yearStart_le {y : Nat} (h : y < 400) : yearStart y ≤ 145731 := by
  unfold yearStart
  omega

/-- A day is in a year or later just if it is not before its first day. -/
theorem le_year_ofDays_iff (y : Int) :
    y ≤ (ofDays days).year ↔ (⟨y, 1, 1⟩ : CivilDate).toDays ≤ days := by
  obtain ⟨era, z, day, whole, last, few, _, date⟩ := ofDays_spec days
  have first := toDays_newYear y
  have here := yearStart_le last
  have there := yearStart_le (show ((y - 1) % 400).toNat < 400 by omega)
  have year : (ofDays days).year = if 306 ≤ day then era * 400 + z + 1 else era * 400 + z := by
    simp only [date, monthOf_le_two day few]
  rw [year]
  rcases Nat.lt_trichotomy z ((y - 1) % 400).toNat with before | same | after
  · have apart := yearStart_lt before
    split <;> omega
  · rw [← same] at first
    split <;> omega
  · have apart := yearStart_lt after
    split <;> omega

end Days

end SensorFleet.CivilDate
