/-!
Lengths of time as numbers of nanoseconds, and their text.
-/
namespace SensorFleet.Duration

def ofSeconds (s : Nat) : Nat := s * 1000000000

def ofMillis (ms : Nat) : Nat := ms * 1000000

def seconds (d : Nat) : Nat := d / 1000000000

def subsecond (d : Nat) : Nat := d % 1000000000

def millis (d : Nat) : Nat := d / 1000000

/-- The longest length of time: a nanosecond less than `2 ^ 64` seconds. -/
def longest : Nat := UInt64.size * 1000000000 - 1

/-- The digits of `part / 10 ^ places` after the point, without zeros at the end. -/
def fraction : Nat → Nat → List Char
  | 0, _ => []
  | places + 1, part =>
    if part = 0 then []
    else Nat.digitChar (part / Nat.pow 10 places) :: fraction places (part % Nat.pow 10 places)

/-- A whole number of units and `part / 10 ^ places` of one more. -/
def inUnits (whole part places : Nat) (unit : String) : String :=
  toString whole ++ (if part = 0 then "" else "." ++ String.ofList (fraction places part)) ++ unit

/-- The length in the largest unit of which it holds at least one. -/
def text (d : Nat) : String :=
  if 0 < seconds d then inUnits (seconds d) (subsecond d) 9 "s"
  else if 1000000 ≤ d then inUnits (d / 1000000) (d % 1000000) 6 "ms"
  else if 1000 ≤ d then inUnits (d / 1000) (d % 1000) 3 "µs"
  else inUnits d 0 0 "ns"

end SensorFleet.Duration
