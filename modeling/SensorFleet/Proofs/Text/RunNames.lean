import SensorFleet.Json.Records
import SensorFleet.Proofs.Json.Strings
import SensorFleet.Proofs.Text.Base32

/-!
Names of runs. A name is read back from its digits, the texts of names are in the order of the names,
and a name whose start fits into 48 bits comes before all those of later starts, whatever random bits
follow.
-/
namespace SensorFleet.RunId

section Digits
variable {a b : RunId}

/-- Nothing of a name is lost in its 26 digits. -/
theorem lt_digits (r : RunId) : r.bits.toNat < 32 ^ 26 :=
  Nat.lt_trans r.bits.isLt (by decide)

theorem digits_toList (r : RunId) : r.digits.toList = Base32.encode 26 r.bits.toNat :=
  String.toList_ofList

theorem ofDigits?_digits (r : RunId) : ofDigits? r.digits = .ok r := by
  have bytes : ¬ byteLength r.digits.toList ≠ 26 := by
    rw [digits_toList, Base32.byteLength_encode]
    exact not_not.mpr rfl
  have number : Base32.decode? r.digits.toList = some r.bits.toNat := by
    rw [digits_toList, Base32.decode?_encode, Nat.mod_eq_of_lt r.lt_digits]
  rw [ofDigits?, if_neg bytes, number]
  dsimp only
  rw [BitVec.ofNat_toNat, BitVec.setWidth_eq]

theorem decoder_text (r : RunId) (rest : List Char) :
    decoder (Json.quoted r.digits.toList ++ rest) = .ok (r, rest) := by
  rw [decoder, Json.stringAs_quoted, String.ofList_toList, ofDigits?_digits]
  rfl

theorem decode_digits (r : RunId) : Json.decode decoder (Json.string r.digits).text = .ok r := by
  have read := decoder_text r []
  rw [List.append_nil] at read
  rw [Json.decode, Json.text, String.toList_ofList, Json.chars, read]
  rfl

def bytes (r : RunId) : List UInt8 := r.text.toUTF8.data.toList

theorem bytes_eq (r : RunId) :
    r.bytes = [114, 117, 110, 45] ++ (Base32.encode 26 r.bits.toNat).map Base32.byte := by
  have tail : r.digits.toUTF8.data.toList = (Base32.encode 26 r.bits.toNat).map Base32.byte := by
    rw [digits]
    exact Base32.utf8_of_single fun _ h => Base32.utf8Size_of_encode h
  have head : "run-".toUTF8.data.toList = [114, 117, 110, 45] := by decide
  have both : r.text.toUTF8 = "run-".toUTF8 ++ r.digits.toUTF8 := String.toByteArray_append
  rw [bytes, both, ByteArray.data_append, Array.toList_append, head, tail]

theorem bytes_lt_iff : a.bytes < b.bytes ↔ a.isBefore b = true := by
  have digits : (Base32.encode 26 a.bits.toNat).map Base32.byte <
      (Base32.encode 26 b.bits.toNat).map Base32.byte ↔ a.bits.toNat < b.bits.toNat := by
    rw [Base32.encode_lt_iff, Nat.mod_eq_of_lt a.lt_digits, Nat.mod_eq_of_lt b.lt_digits]
  rw [isBefore, decide_eq_true_eq, ← digits, bytes_eq, bytes_eq]
  -- the texts agree up to the digits
  simp only [List.cons_append, List.nil_append, List.cons_lt_cons_iff, UInt8.lt_irrefl, false_or,
    true_and]

theorem text_inj : a.text = b.text ↔ a = b := by
  constructor
  · intro same
    have digits : a.digits = b.digits := String.append_right_inj "run-" |>.mp same
    have read := ofDigits?_digits a
    rw [digits, ofDigits?_digits] at read
    exact (Except.ok.inj read).symm
  · intro same
    rw [same]

end Digits

section Generated
variable {start start' : WallTime} {random random' : Nat}

/-- The start is above all random bits. -/
theorem toNat_generate (start : WallTime) (random : Nat) : (generate start random).bits.toNat =
    random % 2 ^ 80 + 2 ^ 80 * (start.millis.toNat % 2 ^ 48) := by
  have few : random % 2 ^ 80 < 2 ^ 80 := Nat.mod_lt random (Nat.two_pow_pos 80)
  rw [generate, ofParts, BitVec.toNat_append, BitVec.toNat_ofNat, BitVec.toNat_ofNat,
    ← Nat.shiftLeft_add_eq_or_of_lt few, Nat.shiftLeft_eq, Nat.add_comm, Nat.mul_comm]

theorem timestamp_generate (fits : start.millis.toNat < 2 ^ 48) :
    timestamp (generate start random) = start.millis.toNat := by
  rw [timestamp, generate, ofParts, BitVec.extractLsb'_append_eq_left, BitVec.toNat_ofNat,
    Nat.mod_eq_of_lt fits]

theorem generate_isBefore (later : start.millis.toNat < start'.millis.toNat)
    (fits : start'.millis.toNat < 2 ^ 48) :
    (generate start random).isBefore (generate start' random') = true := by
  have few : random % 2 ^ 80 < 2 ^ 80 := Nat.mod_lt random (Nat.two_pow_pos 80)
  have few' : random' % 2 ^ 80 < 2 ^ 80 := Nat.mod_lt random' (Nat.two_pow_pos 80)
  rw [isBefore, decide_eq_true_eq, toNat_generate, toNat_generate,
    Nat.mod_eq_of_lt (Nat.lt_trans later fits), Nat.mod_eq_of_lt fits]
  exact (Base32.place_lt_iff few few').mpr (.inl later)

end Generated

/-- Every name is the one that its quoted digits are decoded to; the texts of two names compare byte
by byte as the names do; and of two starts in different milliseconds, both in the range of 48 bits,
the earlier one has the smaller name and the smaller text, and its milliseconds are in the name. -/
theorem names_sort :
    (∀ r : RunId, r.digits.length = 26 ∧ (∀ c ∈ r.digits.toList, c ∈ Base32.alphabet) ∧
      Json.decode decoder (Json.string r.digits).text = .ok r) ∧
    (∀ a b : RunId, (a.bytes < b.bytes ↔ a.isBefore b = true) ∧ (a.text = b.text ↔ a = b)) ∧
    ∀ (start start' : WallTime) (random random' : Nat),
      start.millis.toNat < start'.millis.toNat → start'.millis.toNat < 2 ^ 48 →
      (generate start random).isBefore (generate start' random') = true ∧
      (generate start random).bytes < (generate start' random').bytes ∧
      timestamp (generate start random) = start.millis.toNat := by
  refine ⟨?_, fun a b => ⟨bytes_lt_iff, text_inj⟩, ?_⟩
  · intro r
    refine ⟨?_, ?_, decode_digits r⟩
    · rw [digits, String.length_ofList, Base32.length_encode]
    · intro c h
      rw [digits_toList] at h
      exact Base32.mem_alphabet_of_encode h
  · intro start start' random random' later fits
    have isBefore : (generate start random).isBefore (generate start' random') = true :=
      generate_isBefore later fits
    exact ⟨isBefore, bytes_lt_iff.mpr isBefore, timestamp_generate (Nat.lt_trans later fits)⟩

/-- A start before 1970 with all random bits set, and one a millisecond after 1970 with none. -/
theorem names_sort_around_1970 :
    (⟨-1, 0⟩ : WallTime).millis < 0 ∧
      (generate ⟨-1, 0⟩ (2 ^ 80 - 1)).bytes < (generate ⟨0, 1000000⟩ 0).bytes ∧
      timestamp (generate ⟨-1, 0⟩ (2 ^ 80 - 1)) = 0 := by
  obtain ⟨_, _, generated⟩ := names_sort
  obtain ⟨_, less, stamp⟩ := generated ⟨-1, 0⟩ ⟨0, 1000000⟩ (2 ^ 80 - 1) 0 (by decide) (by decide)
  exact ⟨by decide, less, stamp⟩

end SensorFleet.RunId
