import SensorFleet.Proofs.Text.Digits
import SensorFleet.Proofs.Time.Calendar
import SensorFleet.Time.WallTimeReader

/-!
Times through their texts. The text of a time of the calendar's range is read as the same time, with
its fraction of a second and with a leap second. Only a leap second within a minute, which no
calendar has, is read as the second that its text names.
-/
namespace SensorFleet.WallTime

structure InRange (t : WallTime) : Prop where
  least : Reader.leastSecond ≤ t.seconds
  most : t.seconds ≤ Reader.mostSecond
  nanos : t.nanos < 2000000000

/-- A time that the calendar has: in its range, and with a leap second only after the last second of
a minute. -/
structure Proper (t : WallTime) : Prop extends t.InRange where
  leap : 1000000000 ≤ t.nanos → t.seconds % 60 = 59

/-! ### Numbers with zeros in front -/

section Padded
variable {width n : Nat}

theorem padded_toList (width n : Nat) : (padded width n).toList =
    List.replicate (width - (Nat.toDigits 10 n).length) '0' ++ Nat.toDigits 10 n :=
  String.toList_ofList

theorem padded_isDigit (width n : Nat) : ∀ c ∈ (padded width n).toList, c.isDigit = true := by
  intro c hc
  rw [padded_toList] at hc
  rcases List.mem_append.mp hc with zero | digit
  · rw [List.eq_of_mem_replicate zero]
    decide
  · exact toDigits_isDigit n c digit

theorem padded_value (width n : Nat) : Reader.digitsValue (padded width n).toList = n := by
  change Nat.ofDigitChars 10 _ 0 = n
  rw [padded_toList, Nat.ofDigitChars_append, ofDigitChars_zeros, Nat.zero_mul, ofDigitChars_toDigits]

theorem length_padded (pos : 0 < width) (fits : n < 10 ^ width) :
    (padded width n).toList.length = width := by
  have short := (Nat.length_toDigits_le_iff (b := 10) (by decide) pos).mpr fits
  rw [padded_toList, List.length_append, List.length_replicate, Nat.sub_add_cancel short]

theorem padded_cons (width n : Nat) : ∃ c cs, (padded width n).toList = c :: cs ∧ c.isDigit = true := by
  have digits := padded_isDigit width n
  have nonempty : (padded width n).toList ≠ [] := by
    rw [padded_toList]
    simp
  obtain ⟨c, cs, split⟩ := List.exists_cons_of_ne_nil nonempty
  exact ⟨c, cs, split, digits c (split ▸ List.mem_cons_self)⟩

end Padded

namespace Reader

section Parts
variable {width most n : Nat} {rest : List Char}

theorem number_padded (fits : n < UInt64.size / 2)
    (short : (padded width n).toList.length ≤ most)
    (ends : (padded width n).toList.length = most ∨ Stops rest) :
    number most ((padded width n).toList ++ rest) = .ok (n, rest) := by
  have value := padded_value width n
  have digits := padded_isDigit width n
  have run : (((padded width n).toList ++ rest).take most).takeWhile Char.isDigit =
      (padded width n).toList := by
    rw [List.take_append, List.take_of_length_le short]
    apply takeWhile_digits digits
    rcases ends with full | stops
    · rw [full, Nat.sub_self, List.take_zero]
      simp [Stops]
    · exact stops.take _
  obtain ⟨c, cs, split, digit⟩ := padded_cons width n
  have head : (padded width n).toList ++ rest = c :: (cs ++ rest) := by rw [split, List.cons_append]
  have drop : ((padded width n).toList ++ rest).drop (padded width n).toList.length = rest :=
    List.drop_left
  rw [head] at run drop ⊢
  unfold number
  dsimp only
  rw [digit, Bool.not_true, if_neg Bool.false_ne_true, run, value, if_pos fits, drop]

theorem field_padded {low high : Nat} (least : low ≤ n) (greatest : n ≤ high) (two : n < 100)
    (rest : List Char) :
    field low high ((padded 2 n).toList ++ rest) = .ok (n, rest) := by
  have length : (padded 2 n).toList.length = 2 := length_padded (by decide) two
  have read : number 2 ((padded 2 n).toList ++ rest) = .ok (n, rest) :=
    number_padded (Nat.lt_trans two (by decide)) (Nat.le_of_eq length) (.inl length)
  obtain ⟨c, cs, split, digit⟩ := padded_cons 2 n
  rw [split, List.cons_append] at read ⊢
  rw [field, dropBlanks_of_visible (isBlank_of_digit digit), read]
  exact if_pos ⟨least, greatest⟩

theorem year_plain {y : Nat} (few : y < 10 ^ 4) (rest : List Char) :
    year ((padded 4 y).toList ++ '-' :: rest) = .ok ((y : Int), '-' :: rest) := by
  have length : (padded 4 y).toList.length = 4 := length_padded (by decide) few
  have size : UInt64.size / 2 = 9223372036854775808 := rfl
  have read : number 4 ((padded 4 y).toList ++ '-' :: rest) = .ok (y, '-' :: rest) :=
    number_padded (by omega) (Nat.le_of_eq length) (.inl length)
  have range : -2147483648 ≤ (y : Int) ∧ (y : Int) < 2147483648 := by omega
  obtain ⟨c, cs, split, digit⟩ := padded_cons 4 y
  rw [split, List.cons_append] at read ⊢
  have minus : c ≠ '-' := by
    rintro rfl
    cases digit
  have plus : c ≠ '+' := by
    rintro rfl
    cases digit
  rw [year, dropBlanks_of_visible (isBlank_of_digit digit)]
  split
  next h => exact absurd (List.cons.inj h).1 minus
  next h => exact absurd (List.cons.inj h).1 plus
  simp only [read, Except.map, bind, Except.bind, if_pos range]

theorem year_signed {y : Int} (range : -2147483648 ≤ y ∧ y < 2147483648) (rest : List Char) :
    year ((if y < 0 then '-' else '+') :: ((padded 4 y.natAbs).toList ++ '-' :: rest)) =
      .ok (y, '-' :: rest) := by
  have size : UInt64.size / 2 = 9223372036854775808 := rfl
  have read : number ((padded 4 y.natAbs).toList ++ '-' :: rest).length
      ((padded 4 y.natAbs).toList ++ '-' :: rest) = .ok (y.natAbs, '-' :: rest) :=
    number_padded (by omega) (by simp) (.inr (stops_cons (by decide) rest))
  by_cases negative : y < 0
  · have whole : -(y.natAbs : Int) = y := by omega
    rw [if_pos negative, year, dropBlanks_of_visible (by decide)]
    simp only [read, Except.map, bind, Except.bind, whole, if_pos range]
  · have whole : (y.natAbs : Int) = y := by omega
    rw [if_neg negative, year, dropBlanks_of_visible (by decide)]
    simp only [read, Except.map, bind, Except.bind, whole, if_pos range]

theorem year_text {y : Int} (least : leastYear ≤ y) (most : y ≤ mostYear) (rest : List Char) :
    year ((yearText y).toList ++ '-' :: rest) = .ok (y, '-' :: rest) := by
  have low : leastYear = -262143 := rfl
  have high : mostYear = 262142 := rfl
  rw [yearText]
  split
  next plain =>
    simp only [Bool.and_eq_true, decide_eq_true_eq] at plain
    have read := year_plain (y := y.toNat) (by omega) rest
    rwa [Int.toNat_of_nonneg plain.1] at read
  next signed =>
    have sign : (if y < 0 then "-" else "+").toList = [if y < 0 then '-' else '+'] := by
      split <;> rfl
    rw [String.toList_append, sign]
    exact year_signed (by omega) rest

/-- A fraction of some digits in front of the zone. -/
theorem fraction_padded {k : Nat} (pos : 0 < width) (le : width ≤ 9) (fits : k < 10 ^ width)
    (rest : List Char) : fraction (("." ++ padded width k).toList ++ 'Z' :: rest) =
      .ok (k * 10 ^ (9 - width), 'Z' :: rest) := by
  have stops : Stops ('Z' :: rest) := stops_cons (by decide) rest
  have length := length_padded pos fits
  have small : k < UInt64.size / 2 := Nat.lt_of_lt_of_le fits
    (Nat.le_trans (Nat.pow_le_pow_right (by decide) le) (by decide))
  have read : number 9 ((padded width k).toList ++ 'Z' :: rest) = .ok (k, 'Z' :: rest) :=
    number_padded small (length.trans_le le) (.inr stops)
  have text : ("." ++ padded width k).toList ++ 'Z' :: rest =
      '.' :: ((padded width k).toList ++ 'Z' :: rest) := by simp
  have taken : ((padded width k).toList ++ 'Z' :: rest).length - ('Z' :: rest).length = width := by
    rw [List.length_append, length, Nat.add_sub_cancel]
  rw [text, fraction]
  simp only [read, bind, Except.bind, taken, List.dropWhile_cons_of_neg (show ¬ 'Z'.isDigit = true by decide)]
  rfl

theorem fraction_text {nanos : Nat} (small : nanos < 1000000000) (rest : List Char) :
    fraction ((fractionText nanos).toList ++ 'Z' :: rest) = .ok (nanos, 'Z' :: rest) := by
  rw [fractionText]
  split
  next none =>
    rw [none]
    rfl
  next some =>
    split
    next millis =>
      rw [fraction_padded (by decide) (by decide) (by omega)]
      congr 2
      omega
    next =>
      split
      next micros =>
        rw [fraction_padded (by decide) (by decide) (by omega)]
        congr 2
        omega
      next =>
        rw [fraction_padded (by decide) (by decide) (by omega)]
        congr 2
        omega

end Parts

theorem zone_utc : zone ['Z'] = .ok (0, []) := rfl

end Reader

variable {t : WallTime}

/-- The parts of the text, nested as they are read. -/
theorem text_toList (t : WallTime) : t.text.toList =
    (yearText t.date.year).toList ++ '-' :: ((padded 2 t.date.month).toList ++ '-' ::
      ((padded 2 t.date.day).toList ++ 'T' :: ((padded 2 (t.secondOfDay / 3600)).toList ++ ':' ::
        ((padded 2 (t.secondOfDay / 60 % 60)).toList ++ ':' ::
          ((padded 2 (t.secondOfDay % 60 + if 1000000000 ≤ t.nanos then 1 else 0)).toList ++
            ((fractionText (t.nanos % 1000000000)).toList ++ ['Z'])))))) := by
  simp [text]

theorem Proper.year (h : t.Proper) :
    Reader.leastYear ≤ t.date.year ∧ t.date.year ≤ Reader.mostYear := by
  have least := h.least
  have most := h.most
  unfold Reader.leastSecond at least
  unfold Reader.mostSecond at most
  have first := (CivilDate.le_year_ofDays_iff (t.seconds / 86400) Reader.leastYear).mpr (by omega)
  have last := (CivilDate.le_year_ofDays_iff (t.seconds / 86400) (Reader.mostYear + 1)).not.mpr (by omega)
  rw [date]
  omega

/-- The second of the minute as it is written, 60 in a leap second. -/
def secondText (t : WallTime) : Nat := t.secondOfDay % 60 + if 1000000000 ≤ t.nanos then 1 else 0

theorem secondOfDay_lt (t : WallTime) : t.secondOfDay < 86400 := by
  unfold secondOfDay
  omega

theorem secondText_le (t : WallTime) : t.secondText ≤ 60 := by
  unfold secondText
  split <;> omega

/-- The parts of the time of day make the second again, a leap second counting as the one before. -/
theorem Proper.seconds (h : t.Proper) : t.date.toDays * 86400 + (t.secondOfDay / 3600 * 3600 +
    t.secondOfDay / 60 % 60 * 60 + min t.secondText 59 : Nat) - 0 = t.seconds := by
  have leap := h.leap
  have days : t.date.toDays = t.seconds / 86400 := CivilDate.toDays_ofDays _
  rw [days, secondText]
  unfold secondOfDay
  split <;> omega

/-- A second that is written as 60 tells that the nanoseconds count a leap second. -/
theorem Proper.nanos_eq (h : t.Proper) : (if t.secondText = 60 then
    t.nanos % 1000000000 + 1000000000 else t.nanos % 1000000000) = t.nanos := by
  have leap := h.leap
  have nanos := h.nanos
  unfold secondText secondOfDay
  split_ifs <;> omega

theorem Reader.literal_cons (c : Char) (rest : List Char) : literal c (c :: rest) = .ok ((), rest) :=
  if_pos rfl

theorem Reader.separator_cons (rest : List Char) : separator ('T' :: rest) = .ok ((), rest) := rfl

/-- A time of the calendar's range is read from its text. -/
theorem ofText_text (h : t.Proper) : ofText? t.text = .ok t := by
  obtain ⟨first, last⟩ := h.year
  have valid : t.date.isValid = true := CivilDate.isValid_ofDays _
  have bounds := valid
  simp only [CivilDate.isValid, Bool.and_eq_true, decide_eq_true_eq] at bounds
  obtain ⟨⟨⟨month, month'⟩, day⟩, day'⟩ := bounds
  have long : t.date.day ≤ 31 := Nat.le_trans day' (CivilDate.monthLength_le _ _)
  have second := t.secondOfDay_lt
  have shown := t.secondText_le
  -- What each part of the text is read as.
  have yearRead := Reader.year_text first last
  have monthRead := Reader.field_padded month month' (by omega)
  have dayRead := Reader.field_padded day long (by omega)
  have hourRead := Reader.field_padded (Nat.zero_le (t.secondOfDay / 3600))
    (by omega : _ ≤ 23) (by omega)
  have minuteRead := Reader.field_padded (Nat.zero_le (t.secondOfDay / 60 % 60))
    (by omega : _ ≤ 59) (by omega)
  have secondRead := Reader.field_padded (Nat.zero_le _) shown (by omega)
  have fractionRead := Reader.fraction_text (Nat.mod_lt t.nanos (by decide : 1000000000 > 0)) []
  have plain {c : Char} (visible : isBlank c = false) := dropBlanks_of_visible visible
  have dash := plain (show isBlank '-' = false by decide)
  have point := plain (show isBlank ':' = false by decide)
  have zulu := plain (show isBlank 'Z' = false by decide)
  -- What the reader asks of them.
  have inYears : (!t.date.isValid || decide (t.date.year < Reader.leastYear) ||
      decide (Reader.mostYear < t.date.year)) = false := by
    simp [valid, first, last]
  have inRange : (decide (t.seconds < Reader.leastSecond) || decide (Reader.mostSecond < t.seconds)) =
      false := by
    simp [h.least, h.most]
  have blank : ¬ dropBlanks [] ≠ [] := not_not_intro rfl
  have near : ¬ 86400 ≤ Int.natAbs 0 := by decide
  rw [ofText?, text_toList, Reader.read, ← secondText]
  simp only [bind, Except.bind, dash, point, zulu, Reader.literal_cons, Reader.separator_cons, yearRead,
    monthRead, dayRead, hourRead, minuteRead, secondRead, fractionRead, Reader.zone_utc]
  rw [if_neg blank, if_neg (ne_true_of_eq_false inYears), if_neg near, h.seconds,
    if_neg (ne_true_of_eq_false inRange), h.nanos_eq]

/-! ### Leap seconds within a minute -/

/-- The time as a calendar has it: a leap second within a minute counts as the next second. -/
def carried (t : WallTime) : WallTime :=
  if 1000000000 ≤ t.nanos ∧ t.seconds % 60 ≠ 59 then ⟨t.seconds + 1, t.nanos - 1000000000⟩ else t

theorem carried_eq_self_iff :
    t.carried = t ↔ (1000000000 ≤ t.nanos → t.seconds % 60 = 59) := by
  unfold carried
  split
  next within =>
    have moved : (⟨t.seconds + 1, t.nanos - 1000000000⟩ : WallTime) ≠ t := fun same => by
      have seconds := congrArg WallTime.seconds same
      dsimp only at seconds
      omega
    exact iff_of_false moved fun last => within.2 (last within.1)
  next proper =>
    exact iff_of_true rfl fun leap => not_not.mp fun within => proper ⟨leap, within⟩

theorem InRange.carried (h : t.InRange) : t.carried.Proper := by
  obtain ⟨least, most, nanos⟩ := h
  have final : Reader.mostSecond % 60 = 59 := by decide
  unfold WallTime.carried
  split
  next within =>
    have later : t.seconds + 1 ≤ Reader.mostSecond := by omega
    exact ⟨⟨by dsimp only; omega, later, by dsimp only; omega⟩, fun leap => by dsimp only at leap; omega⟩
  next proper =>
    exact ⟨⟨least, most, nanos⟩, carried_eq_self_iff.mp (if_neg proper)⟩

/-- The text of a leap second within a minute is that of the next second. -/
theorem InRange.text_carried (h : t.InRange) : t.carried.text = t.text := by
  have nanos := h.nanos
  unfold WallTime.carried
  split
  next within =>
    obtain ⟨leap, within⟩ := within
    have date : (⟨t.seconds + 1, t.nanos - 1000000000⟩ : WallTime).date = t.date :=
      congrArg CivilDate.ofDays (by dsimp only; omega)
    have second : (⟨t.seconds + 1, t.nanos - 1000000000⟩ : WallTime).secondOfDay =
        t.secondOfDay + 1 := by
      unfold secondOfDay
      dsimp only
      omega
    have early : t.secondOfDay % 60 ≠ 59 := by
      unfold secondOfDay
      omega
    have hour : (t.secondOfDay + 1) / 3600 = t.secondOfDay / 3600 := by omega
    have minute : (t.secondOfDay + 1) / 60 % 60 = t.secondOfDay / 60 % 60 := by omega
    have shown : (t.secondOfDay + 1) % 60 = t.secondOfDay % 60 + 1 := by omega
    have fraction : (t.nanos - 1000000000) % 1000000000 = t.nanos % 1000000000 := by omega
    have plain : ¬ 1000000000 ≤ t.nanos - 1000000000 := by omega
    simp only [text, date, second, hour, minute, shown, fraction, if_neg plain, if_pos leap,
      Nat.add_zero]
  next => rfl

end SensorFleet.WallTime
