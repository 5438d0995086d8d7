import SensorFleet.Json.Decode
import SensorFleet.Proofs.Json.Numerals
import SensorFleet.Proofs.Number.ShortestDecimal
import SensorFleet.Proofs.Number.SmallExponents

/-!
Doubles through JSON texts. What is written for a finite double is read as a double of the same sign
at most two steps from it, and as the double itself if its digits and its power of ten are small.
-/
namespace SensorFleet.Json

open Binary64 Numeral

/-- The digits of the text of a double as one whole number, and the power of ten of the last one. -/
def written (x : Binary64) : Decimal :=
  let d := x.shortest
  if 0 ≤ d.exponent ∧ d.magnitude ≤ reals.most then
    ⟨10 * (d.digits * 10 ^ d.exponent.toNat), -1⟩
  else d

/-! ### Reading the layouts -/

section Layouts
variable {n k : Nat} {d : Decimal} {rest : List Char}

def numeralOf (isNegative : Bool) (d : Decimal) (rest : List Char) :
    Except Fault (Numeral × List Char) :=
  (ofParts isNegative d.digits d.exponent).map fun x => (Numeral.real x, rest)

theorem map_tail_comma (isNegative : Bool) (d : Decimal) (rest : List Char) :
    ((tail isNegative d.digits d.exponent (',' :: rest)).map fun (x, rest) => (Numeral.real x, rest)) =
      numeralOf isNegative d (',' :: rest) := by
  rw [tail, numeralOf]
  · cases ofParts isNegative d.digits d.exponent <;> rfl
  · simp
  · simp

theorem positional_whole (isNegative : Bool) (whole : 0 ≤ d.exponent)
    (spells : Spells (Nat.toDigits 10 d.digits ++ List.replicate d.exponent.toNat '0') n)
    (fits : 10 * n < UInt64.size) :
    unsigned isNegative ((Layout.positional d).toList ++ ',' :: rest) =
      numeralOf isNegative ⟨10 * n, -1⟩ (',' :: rest) := by
  have text : (Layout.positional d).toList ++ ',' :: rest =
      (Nat.toDigits 10 d.digits ++ List.replicate d.exponent.toNat '0') ++
        '.' :: (['0'] ++ ',' :: rest) := by
    rw [Layout.positional]
    dsimp only
    rw [if_pos whole]
    simp [Layout.zeros]
  have value : Nat.ofDigitChars 10 ['0'] n = 10 * n := rfl
  rw [text, unsigned_fraction spells isNegative (by simp) (by simp) (value ▸ fits)
    (stops_comma rest), value]
  exact map_tail_comma isNegative ⟨10 * n, -1⟩ rest

section Fraction
variable {ds : List Char} {places : Nat} (digits : ∀ c ∈ ds, c.isDigit = true)
  (value : Nat.ofDigitChars 10 ds 0 = n) (fits : n < UInt64.size)
include digits value fits

/-- The point stands among the digits, of which the first one is not zero. -/
theorem point_among (isNegative : Bool) (lead : ds.head? ≠ some '0') (some : 0 < places)
    (inside : places < ds.length) :
    unsigned isNegative (ds.take (ds.length - places) ++
        '.' :: (ds.drop (ds.length - places) ++ ',' :: rest)) =
      numeralOf isNegative ⟨n, -places⟩ (',' :: rest) := by
  have total : Nat.ofDigitChars 10 (ds.drop (ds.length - places))
      (Nat.ofDigitChars 10 (ds.take (ds.length - places)) 0) = n := by
    rw [← Nat.ofDigitChars_append, List.take_append_drop, value]
  have length : (ds.drop (ds.length - places)).length = places := by
    rw [List.length_drop]
    omega
  have spells : Spells (ds.take (ds.length - places))
      (Nat.ofDigitChars 10 (ds.take (ds.length - places)) 0) := by
    have nonempty : ds.take (ds.length - places) ≠ [] := by
      apply List.ne_nil_of_length_pos
      rw [List.length_take]
      omega
    have split := List.take_append_drop (ds.length - places) ds
    rw [← split] at digits lead value
    exact spells_leading digits nonempty lead (value ▸ fits)
  rw [unsigned_fraction spells isNegative (fun c hc => digits c (List.mem_of_mem_drop hc))
    (List.ne_nil_of_length_pos (by omega)) (total ▸ fits) (stops_comma rest), total, length]
  exact map_tail_comma isNegative ⟨n, -places⟩ rest

/-- The point stands in front of the digits, with some zeros between. -/
theorem point_before (isNegative : Bool) (nonempty : ds ≠ []) (outside : ds.length ≤ places) :
    unsigned isNegative (['0'] ++
        '.' :: ((List.replicate (places - ds.length) '0' ++ ds) ++ ',' :: rest)) =
      numeralOf isNegative ⟨n, -places⟩ (',' :: rest) := by
  have total : Nat.ofDigitChars 10 (List.replicate (places - ds.length) '0' ++ ds) 0 = n := by
    rw [Nat.ofDigitChars_append, ofDigitChars_zeros, Nat.zero_mul, value]
  have length : (List.replicate (places - ds.length) '0' ++ ds).length = places := by
    rw [List.length_append, List.length_replicate]
    omega
  have all : ∀ c ∈ List.replicate (places - ds.length) '0' ++ ds, c.isDigit = true := by
    intro c hc
    rcases List.mem_append.mp hc with left | right
    · rw [List.eq_of_mem_replicate left]
      decide
    · exact digits c right
  rw [unsigned_fraction spells_zero isNegative all (List.append_ne_nil_of_right_ne_nil _ nonempty)
    (total ▸ fits) (stops_comma rest), total, length]
  exact map_tail_comma isNegative ⟨n, -places⟩ rest

end Fraction

theorem positional_fraction (isNegative : Bool) (pos : 0 < d.digits)
    (fits : d.digits < UInt64.size) (part : d.exponent < 0) :
    unsigned isNegative ((Layout.positional d).toList ++ ',' :: rest) =
      numeralOf isNegative d (',' :: rest) := by
  have digits := toDigits_isDigit d.digits
  have value := ofDigitChars_toDigits d.digits
  obtain ⟨c, cs, split, nonzero⟩ := toDigits_head pos
  obtain ⟨places, hp⟩ : ∃ places : Nat, d.exponent = -places := ⟨(-d.exponent).toNat, by omega⟩
  have same : d = ⟨d.digits, -places⟩ := by rw [← hp]
  rw [Layout.positional]
  dsimp only
  rw [if_neg (by omega), hp, neg_neg, Int.toNat_natCast, same]
  dsimp only
  generalize Nat.toDigits 10 d.digits = ds at *
  split_ifs with inside
  · have lead : ds.head? ≠ some '0' := by
      rw [split]
      exact fun zero => nonzero (Option.some.inj zero)
    rw [← point_among digits value fits isNegative lead (by omega) inside]
    simp
  · have nonempty : ds ≠ [] := by
      rw [split]
      exact List.cons_ne_nil c cs
    rw [← point_before digits value fits isNegative nonempty (Nat.le_of_not_lt inside)]
    simp [Layout.zeros]

theorem exponential_toList {c : Char} {cs : List Char} (split : Nat.toDigits 10 d.digits = c :: cs) :
    (reals.exponential d).toList ++ ',' :: rest =
      [c] ++ ((if cs = [] then [] else ['.']) ++ (cs ++ 'e' :: (signed d.magnitude ++ ',' :: rest))) := by
  have point : cs.length + 1 = 1 ↔ cs = [] := by simp
  rw [Layout.exponential, signed, split, List.length_cons]
  simp only [point, reals]
  split <;> split <;> simp

theorem exponential_read (isNegative : Bool) (pos : 0 < d.digits) (fits : d.digits < UInt64.size)
    (small : d.magnitude.natAbs < 1000) :
    unsigned isNegative ((reals.exponential d).toList ++ ',' :: rest) =
      numeralOf isNegative d (',' :: rest) := by
  have digits := toDigits_isDigit d.digits
  have value := ofDigitChars_toDigits d.digits
  obtain ⟨c, cs, split, nonzero⟩ := toDigits_head pos
  have scale : d.magnitude = d.exponent + cs.length := by
    rw [Decimal.magnitude, Decimal.length, split, List.length_cons]
    omega
  have after (s : Nat) (start : Int) (whole : start + d.magnitude = d.exponent) :
      (exponent isNegative s start (signed d.magnitude ++ ',' :: rest)).map
        (fun (x, rest) => (Numeral.real x, rest)) =
          numeralOf isNegative ⟨s, d.exponent⟩ (',' :: rest) := by
    rw [exponent_digits isNegative small (stops_comma rest), whole, numeralOf]
    cases ofParts isNegative s d.exponent <;> rfl
  rw [exponential_toList split]
  rw [split, ← List.singleton_append] at value digits
  have head : Spells [c] (Nat.ofDigitChars 10 [c] 0) :=
    spells_leading digits (List.cons_ne_nil _ _) (fun zero => nonzero (Option.some.inj zero))
      (value ▸ fits)
  rw [Nat.ofDigitChars_append] at value
  rcases cs with _ | ⟨b, cs⟩
  · rw [if_pos rfl, List.nil_append, List.nil_append, unsigned_digits head isNegative
      (stops_cons (by decide) _), continued]
    refine (after _ 0 (by simpa using scale)).trans ?_
    rw [show Nat.ofDigitChars 10 [c] 0 = d.digits from value]
  · rw [if_neg (List.cons_ne_nil _ _), List.singleton_append (x := '.'), unsigned_fraction head isNegative
      (fun a ha => digits a (List.mem_append_right [c] ha)) (List.cons_ne_nil _ _) (value ▸ fits)
      (stops_cons (by decide) _), value]
    exact after d.digits (-((b :: cs).length : Int)) (by omega)

end Layouts

/-! ### What is written -/

section Written
variable {x : Binary64}

theorem shortest_zero (h : x.isZero = true) : x.shortest = ⟨0, 0⟩ := if_pos h

theorem written_zero (h : x.isZero = true) : written x = ⟨0, -1⟩ := by
  rw [written, shortest_zero h]
  decide

theorem shortest_fits (h : x.isZero = false) (finite : x.isFinite) :
    x.shortest.digits < UInt64.size :=
  Nat.lt_of_le_of_lt (shortest_spec h finite).2.1 (by decide)

/-- The digits that stand in front of the point are few. -/
theorem whole_small {d : Decimal} (whole : 0 ≤ d.exponent) (small : d.magnitude ≤ reals.most) :
    d.digits * 10 ^ d.exponent.toNat < 10 ^ 16 := by
  have digits := lt_pow_toDigits d.digits
  have count : d.exponent.toNat + (Nat.toDigits 10 d.digits).length ≤ 16 := by
    rw [Decimal.magnitude, Decimal.length] at small
    have most : reals.most = 15 := rfl
    omega
  calc d.digits * 10 ^ d.exponent.toNat
      < 10 ^ (Nat.toDigits 10 d.digits).length * 10 ^ d.exponent.toNat :=
        Nat.mul_lt_mul_of_pos_right digits (Nat.pow_pos (by decide))
    _ = 10 ^ (d.exponent.toNat + (Nat.toDigits 10 d.digits).length) := by
        rw [← Nat.pow_add, Nat.add_comm]
    _ ≤ 10 ^ 16 := Nat.pow_le_pow_right (by decide) count

/-- The number that is written rounds to the double, and its digits are taken whole. -/
theorem written_spec (h : x.isZero = false) (finite : x.isFinite) :
    0 < (written x).digits ∧ (written x).digits < UInt64.size ∧
      Rounds x.magnitudeBits (units (written x).digits (written x).exponent) := by
  obtain ⟨pos, _, rounds⟩ := shortest_spec h finite
  rw [written]
  split_ifs with positional
  · obtain ⟨whole, small⟩ := positional
    have few := whole_small whole small
    refine ⟨Nat.mul_pos (by decide) (Nat.mul_pos pos (Nat.pow_pos (by decide))), ?_, ?_⟩
    · have size : 10 * 10 ^ 16 < UInt64.size := by decide
      dsimp only
      omega
    · obtain ⟨e, he⟩ := Int.eq_ofNat_of_zero_le whole
      have same : units (10 * (x.shortest.digits * 10 ^ x.shortest.exponent.toNat)) (-1) =
          units x.shortest.digits x.shortest.exponent := by
        rw [units, units, he, Int.toNat_natCast, zpow_natCast, zpow_neg_one]
        push_cast
        field_simp
      rw [same]
      exact rounds
  · exact ⟨pos, shortest_fits h finite, rounds⟩

/-- The exponent that is written has few digits. -/
theorem magnitude_small (h : x.isZero = false) (finite : x.isFinite) :
    x.shortest.magnitude.natAbs < 1000 := by
  obtain ⟨pos, few, rounds⟩ := shortest_spec h finite
  have some : 0 < x.magnitudeBits := Nat.pos_of_ne_zero fun zero => by simp [isZero, zero] at h
  have least := exponent_ge (shortest_fits h finite) rounds some
  have most := exponent_le pos rounds (of_decide_eq_true finite)
  have length : (Nat.toDigits 10 x.shortest.digits).length ≤ 18 :=
    (Nat.length_toDigits_le_iff (by decide) (by decide)).mpr (Nat.lt_of_le_of_lt few (by decide))
  rw [Decimal.magnitude, Decimal.length]
  omega

theorem unsigned_text (isNegative : Bool) (finite : x.isFinite) (rest : List Char) :
    unsigned isNegative ((if x.isZero ||
      (reals.least ≤ x.shortest.magnitude && x.shortest.magnitude ≤ reals.most) then
        Layout.positional x.shortest else reals.exponential x.shortest).toList ++ ',' :: rest) =
      numeralOf isNegative (written x) (',' :: rest) := by
  cases h : x.isZero with
  | true =>
    rw [Bool.true_or, if_pos rfl, shortest_zero h, written_zero h]
    have digits : Nat.toDigits 10 0 ++ List.replicate (0 : Int).toNat '0' = ['0'] := by simp
    have spells : Spells (Nat.toDigits 10 0 ++ List.replicate (0 : Int).toNat '0') 0 := by
      rw [digits]
      exact spells_zero
    have read : _ = numeralOf isNegative ⟨10 * 0, -1⟩ (',' :: rest) :=
      positional_whole (d := ⟨0, 0⟩) isNegative (Int.le_refl 0) spells (by decide)
    rwa [Nat.mul_zero] at read
  | false =>
    obtain ⟨pos, _, _⟩ := shortest_spec h finite
    have fits := shortest_fits h finite
    rw [Bool.false_or, written]
    by_cases positional : reals.least ≤ x.shortest.magnitude ∧ x.shortest.magnitude ≤ reals.most
    · rw [if_pos (by simpa using positional)]
      rcases le_or_gt 0 x.shortest.exponent with whole | part
      · have few := whole_small whole positional.2
        have size : 10 * 10 ^ 16 < UInt64.size := by decide
        rw [if_pos ⟨whole, positional.2⟩]
        exact positional_whole isNegative whole (spells_zeros pos (by omega)) (by omega)
      · rw [if_neg (fun h => absurd h.1 (not_le.mpr part))]
        exact positional_fraction isNegative pos fits part
    · rw [if_neg (by simpa using positional), if_neg]
      · exact exponential_read isNegative pos fits (magnitude_small h finite)
      · rintro ⟨whole, small⟩
        refine positional ⟨?_, small⟩
        have least : reals.least = -5 := rfl
        have some : 0 < (Nat.toDigits 10 x.shortest.digits).length := Nat.length_toDigits_pos
        rw [Decimal.magnitude, Decimal.length]
        omega

theorem written_congr {y : Binary64} (same : x.magnitudeBits = y.magnitudeBits) :
    written x = written y := by
  have field : x.exponentField = y.exponentField := by rw [exponentField, exponentField, same]
  have significand : x.significand = y.significand := by
    rw [Binary64.significand, Binary64.significand, field, same]
  have scale : x.scale = y.scale := by rw [Binary64.scale, Binary64.scale, field]
  have zero : x.isZero = y.isZero := by rw [isZero, isZero, same]
  have interval : x.interval = y.interval := by
    rw [Binary64.interval, Binary64.interval, field, significand, scale]
  rw [written, written, Binary64.shortest, Binary64.shortest, zero, interval]

/-- The two largest numbers, either of which is read as the largest one. -/
theorem last_written : ∀ k < 2,
    let w := written (ofMagnitude false (infinityBits - 1 - k))
    Numeral.scaled 8 (Binary64.ofNat w.digits) w.exponent = .ok (ofMagnitude false (infinityBits - 1)) ∧
      22 < w.exponent := by
  decide +kernel

/-- What the text of a finite number becomes. -/
theorem written_becomes (h : x.isZero = false) (finite : x.isFinite) :
    ∃ b, Becomes (written x).digits (written x).exponent x.magnitudeBits b := by
  obtain ⟨pos, fits, rounds⟩ := written_spec h finite
  have some : 0 < x.magnitudeBits := Nat.pos_of_ne_zero fun zero => by simp [isZero, zero] at h
  have below : x.magnitudeBits < infinityBits := of_decide_eq_true finite
  rcases Nat.lt_or_ge (x.magnitudeBits + 2) infinityBits with room | last
  · exact becomes pos fits rounds some room
  · have near : infinityBits - 1 - x.magnitudeBits < 2 := by omega
    obtain ⟨scaled, large⟩ := last_written _ near
    have same : written x = written (ofMagnitude false (infinityBits - 1 - (infinityBits - 1 - x.magnitudeBits))) := by
      apply written_congr
      rw [Nat.sub_sub_self (by omega), magnitudeBits_ofMagnitude false (lt_signBit below)]
    rw [← same] at scaled large
    exact ⟨infinityBits - 1, by decide, scaled, by omega, by omega, fun _ _ small => by omega⟩

end Written

/-! ### Reading it back -/

/-- What is read for a double that was written: a finite double of the same sign, at most two steps
away, and the double itself if its digits and the power of ten are doubles without rounding. -/
structure ReadBack (x y : Binary64) : Prop where
  finite : y.isFinite
  sign : y.isNegative = x.isNegative
  above : y.magnitudeBits ≤ x.magnitudeBits + 2
  below : x.magnitudeBits ≤ y.magnitudeBits + 2
  exact : (written x).digits ≤ 2 ^ 53 → -22 ≤ (written x).exponent → (written x).exponent ≤ 22 → y = x

section Read
variable {x : Binary64}

theorem ofParts_eq (isNegative : Bool) {s b : Nat} {e : Int} (small : b < infinityBits)
    (scaled : Numeral.scaled 8 (Binary64.ofNat s) e = .ok (ofMagnitude false b)) :
    ofParts isNegative s e = .ok (ofMagnitude isNegative b) := by
  have sign := isNegative_ofMagnitude false (lt_signBit small)
  have magnitude := magnitudeBits_ofMagnitude false (lt_signBit small)
  rw [ofParts, scaled]
  cases isNegative with
  | false => rfl
  | true =>
    change Except.ok (Binary64.neg _) = _
    rw [Binary64.neg, sign, magnitude, Bool.not_false]

/-- The digits and the power of ten that are written for a finite double make it again, nearly. -/
theorem ofParts_written (finite : x.isFinite) : ∃ y,
    ofParts x.isNegative (written x).digits (written x).exponent = .ok y ∧ ReadBack x y := by
  cases h : x.isZero with
  | true =>
    have zero : x.magnitudeBits = 0 := of_decide_eq_true h
    have scaled : Numeral.scaled 8 (Binary64.ofNat 0) (-1) = .ok (ofMagnitude false 0) := by
      decide +kernel
    have whole := ofMagnitude_eq x
    rw [zero] at whole
    refine ⟨x, ?_, ⟨finite, rfl, by omega, by omega, fun _ _ _ => rfl⟩⟩
    rw [written_zero h, ofParts_eq x.isNegative (by decide) scaled, whole]
  | false =>
    obtain ⟨b, becomes⟩ := written_becomes h finite
    have small := lt_signBit becomes.finite
    have magnitude := magnitudeBits_ofMagnitude x.isNegative small
    refine ⟨_, ofParts_eq x.isNegative becomes.finite becomes.scaled, ?_⟩
    refine ⟨?_, isNegative_ofMagnitude _ small, ?_, ?_, fun few least most => ?_⟩
    · rw [isFinite, magnitude]
      exact decide_eq_true becomes.finite
    · rw [magnitude]
      exact becomes.above
    · rw [magnitude]
      exact becomes.below
    · rw [becomes.exact few least most, ofMagnitude_eq]

/-- The text of a finite double is read as what its digits and its power of ten make. -/
theorem binary64_text {y : Binary64} (finite : x.isFinite)
    (parts : ofParts x.isNegative (written x).digits (written x).exponent = .ok y) (rest : List Char) :
    binary64 ((reals.text x).toList ++ ',' :: rest) = .ok (y, ',' :: rest) := by
  have read := unsigned_text x.isNegative finite rest
  rw [numeralOf, parts] at read
  rw [Layout.text, finite, Bool.not_true, if_neg Bool.false_ne_true]
  dsimp only
  rw [String.toList_append, List.append_assoc, binary64]
  cases sign : x.isNegative with
  | false =>
    rw [sign] at read
    exact number_of_unsigned read
  | true =>
    rw [sign] at read
    exact number_of_negative read

end Read

end SensorFleet.Json
