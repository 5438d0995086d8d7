import Mathlib.Tactic.SplitIfs
import SensorFleet.Json.Decode

/-!
Strings in JSON texts. Every string is read from its quoted text, whatever characters it has.
-/
namespace SensorFleet.Json

/-- The codes of control characters as two hexadecimal digits, and that the digits are read again. -/
theorem hexDigit_spec : ∀ n < 32,
    hexValue? (hexDigit (n / 16)) = some (n / 16) ∧ hexValue? (hexDigit (n % 16)) = some (n % 16) ∧
      (hexDigit (n / 16)).utf8Size = 1 ∧ (hexDigit (n % 16)).utf8Size = 1 := by
  decide

theorem hexUnit_control {n : Nat} (small : n < 32) (cs : List Char) :
    hexUnit ('0' :: '0' :: hexDigit (n / 16) :: hexDigit (n % 16) :: cs) = .ok n := by
  obtain ⟨high, low, one, one'⟩ := hexDigit_spec n small
  have zero : hexValue? '0' = some 0 := rfl
  have whole : ((0 * 16 + 0) * 16 + n / 16) * 16 + n % 16 = n := by omega
  have bytes : byteLength ['0', '0', hexDigit (n / 16), hexDigit (n % 16)] = 4 := by
    simp only [byteLength, List.foldr, one, one']
    rfl
  simp only [hexUnit, List.take, bytes, Nat.lt_irrefl, if_false, zero, high, low, whole]

section Strings
variable {c : Char}

theorem escaped_control (small : c.toNat < 32) (cs : List Char) :
    escaped ('u' :: '0' :: '0' :: hexDigit (c.toNat / 16) :: hexDigit (c.toNat % 16) :: cs) =
      .ok (c, 5) := by
  have unit := hexUnit_control small cs
  have inner : ¬ (0xdc00 ≤ c.toNat && c.toNat ≤ 0xdfff) = true := by
    simp only [Bool.and_eq_true, decide_eq_true_eq]
    omega
  have plain : (c.toNat < 0xd800 || 0xdbff < c.toNat) = true := by
    simp only [Bool.or_eq_true, decide_eq_true_eq]
    omega
  simp only [escaped, unit, bind, Except.bind, inner, plain, if_true, Bool.false_eq_true, if_false,
    Char.ofNat_toNat]
  rfl

theorem stringTail_backslash {k : Nat} {cs : List Char} (h : escaped cs = .ok (c, k)) :
    stringTail ('\\' :: cs) = (stringTail (cs.drop k)).map fun (s, rest) => (c :: s, rest) := by
  rw [stringTail, h]

theorem stringTail_short {e : Char} {cs : List Char} (h : escaped (e :: cs) = .ok (c, 1)) :
    stringTail (['\\', e] ++ cs) = (stringTail cs).map fun (s, rest) => (c :: s, rest) :=
  stringTail_backslash h

theorem stringTail_plain (quote : c ≠ '"') (backslash : c ≠ '\\') (visible : ¬ c.toNat < 0x20)
    (cs : List Char) :
    stringTail (c :: cs) = (stringTail cs).map fun (s, rest) => (c :: s, rest) := by
  rw [stringTail, if_neg visible]
  · exact quote
  · exact backslash

/-- A character is read from its escape, or as it is. -/
theorem stringTail_escape (c : Char) (cs : List Char) :
    stringTail (escape c ++ cs) = (stringTail cs).map fun (s, rest) => (c :: s, rest) := by
  unfold escape
  split_ifs with quote backslash line carriage tab back feed control
  · subst quote
    exact stringTail_short rfl
  · subst backslash
    exact stringTail_short rfl
  · subst line
    exact stringTail_short rfl
  · subst carriage
    exact stringTail_short rfl
  · subst tab
    exact stringTail_short rfl
  · subst back
    exact stringTail_short rfl
  · subst feed
    exact stringTail_short rfl
  · exact stringTail_backslash (escaped_control control cs)
  · exact stringTail_plain quote backslash control cs

theorem stringTail_quoted (s rest : List Char) :
    stringTail (s.flatMap escape ++ '"' :: rest) = .ok (s, rest) := by
  induction s with
  | nil => rw [List.flatMap_nil, List.nil_append, stringTail]
  | cons c s ih =>
    rw [List.flatMap_cons, List.append_assoc, stringTail_escape, ih]
    rfl

end Strings

theorem stringAs_quoted {α : Type} (expected : String) (accept : String → Except Fault α)
    (s rest : List Char) :
    stringAs expected accept (quoted s ++ rest) =
      (accept (String.ofList s)).map fun v => (v, rest) := by
  have visible : skipSpace ('"' :: (s.flatMap escape ++ '"' :: rest)) =
      '"' :: (s.flatMap escape ++ '"' :: rest) := rfl
  have text : quoted s ++ rest = '"' :: (s.flatMap escape ++ '"' :: rest) := by simp [quoted]
  simp only [stringAs, text, visible, stringTail_quoted]
  change (accept (String.ofList s) >>= fun v => Except.ok (v, rest)) = _
  cases accept (String.ofList s) <;> rfl

end SensorFleet.Json
