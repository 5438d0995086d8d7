import SensorFleet.Json.Decode
import SensorFleet.Proofs.Number.Scaling
import SensorFleet.Proofs.Text.Digits

/-!
Numerals in JSON texts, part by part: the whole number of some digits, what a fraction adds to it,
and an exponent.
-/
namespace SensorFleet.Json.Numeral

section Parts
variable {ds rest : List Char} {s : Nat} {start : Int}

theorem absorb_all (fits : Nat.ofDigitChars 10 ds s < UInt64.size) :
    absorb s ds = (Nat.ofDigitChars 10 ds s, ds.length) := by
  induction ds generalizing s with
  | nil => rfl
  | cons d ds ih =>
    rw [Nat.ofDigitChars_cons] at fits
    have first : 10 * s + digitValue d < UInt64.size := Nat.lt_of_le_of_lt (le_ofDigitChars ds _) fits
    rw [absorb, if_pos first, Nat.ofDigitChars_cons, List.length_cons]
    exact congrArg (fun taken => (taken.1, taken.2 + 1)) (ih fits)

/-- Digits that spell a whole number of 64 bits as JSON wants it, without a zero in front. -/
structure Spells (ds : List Char) (n : Nat) : Prop where
  digits : ∀ c ∈ ds, c.isDigit = true
  nonempty : ds ≠ []
  lead : ds.head? = some '0' → ds = ['0']
  value : Nat.ofDigitChars 10 ds 0 = n
  fits : n < UInt64.size

theorem spells_zero : Spells ['0'] 0 :=
  ⟨by simp, by simp, fun _ => rfl, rfl, by decide⟩

theorem spells_zeros {n k : Nat} (pos : 0 < n) (fits : n * 10 ^ k < UInt64.size) :
    Spells (Nat.toDigits 10 n ++ List.replicate k '0') (n * 10 ^ k) := by
  obtain ⟨c, cs, split, nonzero⟩ := toDigits_head pos
  refine ⟨?_, by simp [split], fun zero => ?_, ?_, fits⟩
  · intro c hc
    rcases List.mem_append.mp hc with left | right
    · exact toDigits_isDigit n c left
    · rw [List.eq_of_mem_replicate right]
      decide
  · rw [split] at zero
    exact absurd (Option.some.inj zero) nonzero
  · rw [Nat.ofDigitChars_append, ofDigitChars_toDigits, ofDigitChars_zeros]

theorem spells_toDigits {n : Nat} (fits : n < UInt64.size) : Spells (Nat.toDigits 10 n) n := by
  rcases Nat.eq_zero_or_pos n with rfl | pos
  · exact spells_zero
  · have spells := spells_zeros (k := 0) pos (by rwa [Nat.pow_zero, Nat.mul_one])
    rwa [List.replicate_zero, List.append_nil, Nat.pow_zero, Nat.mul_one] at spells

theorem spells_leading {es : List Char} (digits : ∀ c ∈ ds ++ es, c.isDigit = true)
    (nonempty : ds ≠ []) (lead : (ds ++ es).head? ≠ some '0')
    (fits : Nat.ofDigitChars 10 (ds ++ es) 0 < UInt64.size) :
    Spells ds (Nat.ofDigitChars 10 ds 0) := by
  refine ⟨fun c hc => digits c (List.mem_append_left es hc), nonempty, fun zero => ?_, rfl, ?_⟩
  · rw [List.head?_append, zero] at lead
    exact absurd rfl lead
  · rw [Nat.ofDigitChars_append] at fits
    exact Nat.lt_of_le_of_lt (le_ofDigitChars es _) fits

def continued (isNegative : Bool) (n : Nat) : Decoder Numeral
  | '.' :: rest => (fraction isNegative n 0 rest).map fun (x, rest) => (real x, rest)
  | 'e' :: rest => (exponent isNegative n 0 rest).map fun (x, rest) => (real x, rest)
  | 'E' :: rest => (exponent isNegative n 0 rest).map fun (x, rest) => (real x, rest)
  | rest => .ok (ofWhole isNegative n, rest)

variable {n : Nat} (spells : Spells ds n)
include spells

theorem Spells.absorb : absorb 0 ds = (n, ds.length) := by
  have fits := spells.fits
  rw [← spells.value] at fits ⊢
  exact absorb_all fits

theorem unsigned_digits (isNegative : Bool) (stops : Stops rest) :
    unsigned isNegative (ds ++ rest) = continued isNegative n rest := by
  have run := takeWhile_digits spells.digits stops
  have absorbed := spells.absorb
  have lead := spells.lead
  have drop : (ds ++ rest).drop ds.length = rest := List.drop_left
  unfold unsigned
  dsimp only
  rw [run, drop]
  obtain ⟨d, ds, rfl⟩ := List.exists_cons_of_ne_nil spells.nonempty
  rw [List.cons_append, absorbed, Nat.sub_self]
  dsimp only
  split
  next => contradiction
  next => contradiction
  next two _ =>
    cases two
    cases lead rfl
  next =>
    unfold continued
    split
    · rfl
    · rfl
    · rfl
    · simp

omit spells

theorem fraction_digits (isNegative : Bool) (digits : ∀ c ∈ ds, c.isDigit = true)
    (nonempty : ds ≠ []) (fits : Nat.ofDigitChars 10 ds s < UInt64.size) (stops : Stops rest) :
    fraction isNegative s start (ds ++ rest) =
      tail isNegative (Nat.ofDigitChars 10 ds s) (start - ds.length) rest := by
  have run := takeWhile_digits digits stops
  have drop : (ds ++ rest).drop ds.length = rest := List.drop_left
  have some : ds.isEmpty = false := by simpa using nonempty
  unfold fraction
  dsimp only
  rw [run, drop, some, if_neg Bool.false_ne_true, absorb_all fits]

theorem unsigned_fraction {fs : List Char} {n : Nat} (spells : Spells ds n) (isNegative : Bool)
    (digits : ∀ c ∈ fs, c.isDigit = true) (nonempty : fs ≠ [])
    (fits : Nat.ofDigitChars 10 fs n < UInt64.size) (stops : Stops rest) :
    unsigned isNegative (ds ++ '.' :: (fs ++ rest)) =
      (tail isNegative (Nat.ofDigitChars 10 fs n) (-(fs.length : Int)) rest).map
        fun (x, rest) => (real x, rest) := by
  rw [unsigned_digits spells isNegative (stops_cons (by decide) _), continued,
    fraction_digits isNegative digits nonempty fits stops, Int.zero_sub]

/-- The exponent with its sign, as texts of doubles write it. -/
def signed (e : Int) : List Char := (if 0 ≤ e then '+' else '-') :: Nat.toDigits 10 e.natAbs

theorem exponent_digits (isNegative : Bool) {e : Int} (small : e.natAbs < 1000) (stops : Stops rest) :
    exponent isNegative s start (signed e ++ rest) =
      (ofParts isNegative s (start + e)).map fun x => (x, rest) := by
  have digits := toDigits_isDigit e.natAbs
  have run := takeWhile_digits digits stops
  have drop : (Nat.toDigits 10 e.natAbs ++ rest).drop (Nat.toDigits 10 e.natAbs).length = rest :=
    List.drop_left
  have some : (Nat.toDigits 10 e.natAbs).isEmpty = false := by simp
  have value : (Nat.toDigits 10 e.natAbs).foldl (fun n d => 10 * n + digitValue d) 0 = e.natAbs :=
    ofDigitChars_toDigits e.natAbs
  have range : ¬ UInt32.size / 2 ≤ e.natAbs := by
    have size : UInt32.size / 2 = 2147483648 := rfl
    omega
  unfold signed exponent
  by_cases up : 0 ≤ e
  · have whole : start + (e.natAbs : Int) = start + e := by omega
    simp only [if_pos up, List.cons_append, run, drop, some, value, range, whole, if_false,
      Bool.false_eq_true]
    cases ofParts isNegative s (start + e) <;> rfl
  · have whole : start - (e.natAbs : Int) = start + e := by omega
    simp only [if_neg up, List.cons_append, run, drop, some, value, range, whole, if_false, if_true,
      Bool.false_eq_true]
    cases ofParts isNegative s (start + e) <;> rfl

end Parts

end SensorFleet.Json.Numeral

namespace SensorFleet.Json

section Number
variable {α : Type} {expected : String} {accept : Numeral → Except Fault α} {cs rest : List Char}
  {n : Numeral}

/-- What is read starts with a digit. -/
theorem Numeral.unsigned_head {isNegative : Bool} (h : unsigned isNegative cs = .ok (n, rest)) :
    ∃ c cs', cs = c :: cs' ∧ c.isDigit = true := by
  rcases cs with _ | ⟨c, cs⟩
  · cases h
  · refine ⟨c, cs, rfl, ?_⟩
    by_contra other
    simp [unsigned, other] at h

theorem skipSpace_of_visible {c : Char} (h : 0x20 < c.toNat) (cs : List Char) :
    skipSpace (c :: cs) = c :: cs := by
  have visible {d : Char} (hd : d.toNat ≤ 0x20) : c ≠ d := by
    rintro rfl
    omega
  rw [skipSpace, List.dropWhile_cons_of_neg]
  simp [visible (d := ' ') (by decide), visible (d := '\n') (by decide),
    visible (d := '\t') (by decide), visible (d := '\r') (by decide)]

theorem lt_toNat_of_isDigit {c : Char} (h : c.isDigit = true) : 0x2f < c.toNat := by
  simp only [Char.isDigit, Bool.and_eq_true, decide_eq_true_eq] at h
  exact h.1

theorem number_of_unsigned (h : Numeral.unsigned false cs = .ok (n, rest)) :
    number expected accept cs = (accept n).map fun v => (v, rest) := by
  obtain ⟨c, cs, rfl, digit⟩ := Numeral.unsigned_head h
  have large := lt_toNat_of_isDigit digit
  have visible := skipSpace_of_visible (c := c) (by omega) cs
  have minus : c ≠ '-' := by
    rintro rfl
    cases digit
  unfold number
  rw [visible]
  dsimp only
  split
  next same => exact absurd (List.cons.inj same).1 minus
  next same =>
    obtain ⟨rfl, rfl⟩ := List.cons.inj same
    rw [if_pos digit]
    simp only [h]
    change (accept n >>= fun v => Except.ok (v, rest)) = _
    cases accept n <;> rfl
  next none => cases none

theorem number_of_negative (h : Numeral.unsigned true cs = .ok (n, rest)) :
    number expected accept ('-' :: cs) = (accept n).map fun v => (v, rest) := by
  simp only [number, skipSpace_of_visible (c := '-') (by decide) cs, h]
  change (accept n >>= fun v => Except.ok (v, rest)) = _
  cases accept n <;> rfl

end Number

end SensorFleet.Json
