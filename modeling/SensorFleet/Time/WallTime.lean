import SensorFleet.Time.Calendar
import SensorFleet.Time.Duration
/-!
Times of the world's clock, in seconds since 1970 without leap seconds. A leap second is written
as the nanoseconds from 1000000000 on of the last second of a minute.
-/
namespace SensorFleet

structure WallTime where
  seconds : Int
  nanos : Nat
deriving DecidableEq, Repr, Inhabited

namespace WallTime

def isBefore (a b : WallTime) : Bool :=
  a.seconds < b.seconds || (a.seconds = b.seconds && a.nanos < b.nanos)

/-- The later of the two. -/
def latest (a b : WallTime) : WallTime := if a.isBefore b then b else a

theorem isBefore_trans {a b c : WallTime} (hab : b.isBefore a = false)
    (hbc : c.isBefore b = false) : c.isBefore a = false := by
  simp only [isBefore, Bool.or_eq_false_iff, Bool.and_eq_false_iff, decide_eq_false_iff_not] at *
  omega

theorem isBefore_latest_left (a b : WallTime) : (a.latest b).isBefore a = false := by
  unfold latest
  cases h : a.isBefore b with
  | true =>
    simp only [isBefore, Bool.or_eq_true, Bool.and_eq_true, decide_eq_true_eq] at h
    simp only [if_true, isBefore, Bool.or_eq_false_iff, Bool.and_eq_false_iff,
      decide_eq_false_iff_not]
    omega
  | false => simp [isBefore]

theorem isBefore_latest_right (a b : WallTime) : (a.latest b).isBefore b = false := by
  unfold latest
  cases h : a.isBefore b with
  | true => simp [isBefore]
  | false => simpa using h

theorem isBefore_self (a : WallTime) : a.isBefore a = false := by simp [isBefore]

/-- What is not after either is not after the later one. -/
theorem isBefore_latest {a b c : WallTime} (ha : c.isBefore a = false) (hb : c.isBefore b = false) :
    c.isBefore (a.latest b) = false := by
  unfold latest
  split
  · exact hb
  · exact ha

/-- Milliseconds since 1970, rounded down. -/
def millis (t : WallTime) : Int := t.seconds * 1000 + (t.nanos / 1000000 : Nat)

/-- The time a length of time later; leaving a leap second takes one second less. -/
def after (t : WallTime) (d : Nat) : WallTime :=
  if 1000000000 ≤ t.nanos then
    if Duration.seconds d = 0 && t.nanos + d < 2000000000 then ⟨t.seconds, t.nanos + d⟩
    else
      let n := t.nanos - 1000000000 + d
      ⟨t.seconds + (n / 1000000000 : Nat), n % 1000000000⟩
  else
    let n := t.nanos + d
    ⟨t.seconds + (n / 1000000000 : Nat), n % 1000000000⟩

def date (t : WallTime) : CivilDate := CivilDate.ofDays (t.seconds / 86400)

def secondOfDay (t : WallTime) : Nat := (t.seconds % 86400).toNat

/-- At least `width` digits, with zeros in front. -/
def padded (width n : Nat) : String :=
  let ds := Nat.toDigits 10 n
  String.ofList (List.replicate (width - ds.length) '0' ++ ds)

/-- Four digits, and a sign in front of years outside 0 to 9999. -/
def yearText (y : Int) : String :=
  if 0 ≤ y && y ≤ 9999 then padded 4 y.toNat
  else (if y < 0 then "-" else "+") ++ padded 4 y.natAbs

/-- The fraction of a second in the fewest of 0, 3, 6 or 9 digits that give it exactly. -/
def fractionText (nanos : Nat) : String :=
  if nanos = 0 then ""
  else if nanos % 1000000 = 0 then "." ++ padded 3 (nanos / 1000000)
  else if nanos % 1000 = 0 then "." ++ padded 6 (nanos / 1000)
  else "." ++ padded 9 nanos

/-- The text in universal time, such as 2024-01-01T12:00:00.250Z. -/
def text (t : WallTime) : String :=
  let d := t.date
  let s := t.secondOfDay
  let leap := if 1000000000 ≤ t.nanos then 1 else 0
  yearText d.year ++ "-" ++ padded 2 d.month ++ "-" ++ padded 2 d.day ++ "T" ++
    padded 2 (s / 3600) ++ ":" ++ padded 2 (s / 60 % 60) ++ ":" ++ padded 2 (s % 60 + leap) ++
    fractionText (t.nanos % 1000000000) ++ "Z"

end WallTime
end SensorFleet
