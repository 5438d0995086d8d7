import Mathlib.Data.Nat.Digits.Defs
import SensorFleet.Text.Base32
import SensorFleet.Text.Blank

/-!
What the digits of base 32 say of a number. They are read back as the number modulo a power of 32,
each is one byte, and texts of one length compare byte by byte as the numbers do.
-/
namespace SensorFleet.Base32

section Digits
variable {d d' : Nat}

theorem value?_digit : ∀ d < 32, value? (digit d) = some d := by
  decide

theorem digit_mem : ∀ d < 32, digit d ∈ alphabet := by
  decide

theorem utf8Size_digit : ∀ d < 32, (digit d).utf8Size = 1 := by
  decide

def byte (c : Char) : UInt8 := c.val.toUInt8

/-- The bytes of the digits are in the order of their values. -/
theorem byte_step : ∀ d < 31, byte (digit d) < byte (digit (d + 1)) := by
  decide

theorem byte_mono (lt : d < d') (few : d' < 32) :
    byte (digit d) < byte (digit d') := by
  induction d' with
  | zero => exact absurd lt (Nat.not_lt_zero d)
  | succ d' ih =>
    have step := byte_step d' (by omega)
    by_cases last : d = d'
    · rwa [last]
    · exact UInt8.lt_trans (ih (by omega) (by omega)) step

theorem byte_lt_iff (few : d < 32) (few' : d' < 32) :
    byte (digit d) < byte (digit d') ↔ d < d' := by
  refine ⟨fun lt => ?_, fun lt => byte_mono lt few'⟩
  by_contra ge
  by_cases same : d = d'
  · rw [same] at lt
    exact UInt8.lt_irrefl _ lt
  · exact UInt8.lt_asymm lt (byte_mono (by omega) few)

theorem byte_inj (few : d < 32) (few' : d' < 32) :
    byte (digit d) = byte (digit d') ↔ d = d' := by
  constructor
  · intro same
    have ge := (byte_lt_iff few few').not.mp (same ▸ UInt8.lt_irrefl _)
    have le := (byte_lt_iff few' few).not.mp (same ▸ UInt8.lt_irrefl _)
    omega
  · intro same
    rw [same]

end Digits

section Encode
variable {cs : List Char} {c : Char} {n m length : Nat}

theorem length_encode (length n : Nat) : (encode length n).length = length := by
  induction length generalizing n with
  | zero => rfl
  | succ length ih => rw [encode, List.length_append, ih, List.length_singleton]

/-- Nothing is written but digits. -/
theorem exists_digit (h : c ∈ encode length n) : ∃ d < 32, digit d = c := by
  induction length generalizing n with
  | zero => simp [encode] at h
  | succ length ih =>
    rw [encode, List.mem_append, List.mem_singleton] at h
    rcases h with earlier | last
    · exact ih earlier
    · exact ⟨n % 32, Nat.mod_lt n (by decide), last.symm⟩

theorem mem_alphabet_of_encode (h : c ∈ encode length n) : c ∈ alphabet := by
  obtain ⟨d, few, rfl⟩ := exists_digit h
  exact digit_mem d few

theorem utf8Size_of_encode (h : c ∈ encode length n) : c.utf8Size = 1 := by
  obtain ⟨d, few, rfl⟩ := exists_digit h
  exact utf8Size_digit d few

theorem encode_cons (length n : Nat) :
    encode (length + 1) n = digit (n / 32 ^ length % 32) :: encode length n := by
  induction length generalizing n with
  | zero => rw [Nat.pow_zero, Nat.div_one]; rfl
  | succ length ih =>
    have first : n / 32 / 32 ^ length = n / 32 ^ (length + 1) := by
      rw [Nat.div_div_eq_div_mul, ← Nat.pow_succ']
    rw [encode, ih, first]
    rfl

theorem decode?_concat (cs : List Char) (c : Char) :
    decode? (cs ++ [c]) = (decode? cs).bind fun n => (value? c).map fun d => 32 * n + d := by
  rw [decode?, List.foldl_append]
  rfl

/-- The digits are read as what they hold of the number. -/
theorem decode?_encode (length n : Nat) : decode? (encode length n) = some (n % 32 ^ length) := by
  induction length generalizing n with
  | zero => rw [Nat.pow_zero, Nat.mod_one]; rfl
  | succ length ih =>
    have last := value?_digit _ (Nat.mod_lt n (by decide : 0 < 32))
    have whole : 32 * (n / 32 % 32 ^ length) + n % 32 = n % 32 ^ (length + 1) := by
      rw [Nat.pow_succ', Nat.mod_mul, Nat.add_comm]
    rw [encode, decode?_concat, ih, last, ← whole]
    rfl

theorem byteLength_of_single (single : ∀ c ∈ cs, c.utf8Size = 1) : byteLength cs = cs.length := by
  induction cs with
  | nil => rfl
  | cons c cs ih =>
    have one := single c List.mem_cons_self
    have rest := ih fun c' h => single c' (List.mem_cons_of_mem c h)
    rw [byteLength] at rest ⊢
    rw [List.foldr_cons, rest, one, List.length_cons, Nat.add_comm]

theorem byteLength_encode (length n : Nat) : byteLength (encode length n) = length := by
  rw [byteLength_of_single fun _ h => utf8Size_of_encode h, length_encode]

/-- Characters of one byte each in UTF-8. -/
theorem utf8_of_single (single : ∀ c ∈ cs, c.utf8Size = 1) :
    (String.ofList cs).toUTF8.data.toList = cs.map byte := by
  have bytes : cs.flatMap String.utf8EncodeChar = cs.map byte := by
    induction cs with
    | nil => rfl
    | cons c cs ih =>
      have one := String.utf8EncodeChar_eq_singleton (single c List.mem_cons_self)
      rw [List.flatMap_cons, one, ih fun c' h => single c' (List.mem_cons_of_mem c h)]
      rfl
  change (String.ofList cs).toByteArray.data.toList = _
  rw [String.toByteArray_ofList, List.utf8Encode, bytes, List.toList_data_toByteArray]

/-- Two numbers compare by what stands at the higher place, and then by the rest. -/
theorem place_lt_iff {p first first' rest rest' : Nat} (few : rest < p) (few' : rest' < p) :
    rest + p * first < rest' + p * first' ↔ first < first' ∨ first = first' ∧ rest < rest' := by
  have above {a b : Nat} (lt : a < b) : p * a + p ≤ p * b := by
    rw [← Nat.mul_succ]
    exact Nat.mul_le_mul_left p lt
  rcases Nat.lt_trichotomy first first' with less | rfl | more
  · have := above less
    omega
  · omega
  · have := above more
    omega

/-- As many digits of two numbers compare as the numbers that they hold. -/
theorem encode_lt_iff : (encode length n).map byte < (encode length m).map byte ↔
    n % 32 ^ length < m % 32 ^ length := by
  induction length with
  | zero => simp [encode, Nat.mod_one]
  | succ length ih =>
    have few := Nat.mod_lt (n / 32 ^ length) (by decide : 0 < 32)
    have few' := Nat.mod_lt (m / 32 ^ length) (by decide : 0 < 32)
    have rest := Nat.mod_lt n (Nat.pow_pos (by decide : 0 < 32) : 0 < 32 ^ length)
    have rest' := Nat.mod_lt m (Nat.pow_pos (by decide : 0 < 32) : 0 < 32 ^ length)
    rw [encode_cons, encode_cons, List.map_cons, List.map_cons, List.cons_lt_cons_iff,
      byte_lt_iff few few', byte_inj few few', ih, Nat.mod_pow_succ, Nat.mod_pow_succ,
      place_lt_iff rest rest']

end Encode

end SensorFleet.Base32
