/-!
Digits of base 32 without the letters I, L, O and U, most significant first.
-/
namespace SensorFleet.Base32

def alphabet : List Char := "0123456789ABCDEFGHJKMNPQRSTVWXYZ".toList

def digit (n : Nat) : Char := alphabet.getD n '0'

/-- The value of a digit, in either case. -/
def value? (c : Char) : Option Nat := alphabet.findIdx? (· = c.toUpper)

/-- The last `length` digits of a number. -/
def encode : Nat → Nat → List Char
  | 0, _ => []
  | length + 1, n => encode length (n / 32) ++ [digit (n % 32)]

/-- The number that the digits write, or nothing if one of them is no digit. -/
def decode? (cs : List Char) : Option Nat :=
  cs.foldl (fun n? c => n?.bind fun n => (value? c).map fun d => 32 * n + d) (some 0)

end SensorFleet.Base32
