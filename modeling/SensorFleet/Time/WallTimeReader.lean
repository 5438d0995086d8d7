import SensorFleet.Time.WallTime
import SensorFleet.Text.Blank
/-!
Reading times. The form is that of RFC 3339, relaxed: numbers may be shorter than usual, blanks may
stand around the parts, a blank may replace the T, and the zone may be written UTC or without its
colon. A year with a sign may have any number of digits.
-/
namespace SensorFleet

inductive WallTimeFault
  | outOfRange
  | impossible
  | invalid
  | tooShort
  | tooLong
deriving DecidableEq, Repr

namespace WallTimeFault

def message : WallTimeFault → String
  | .outOfRange => "input is out of range"
  | .impossible => "no possible date and time matching input"
  | .invalid => "input contains invalid characters"
  | .tooShort => "premature end of input"
  | .tooLong => "trailing input"

end WallTimeFault

namespace WallTime.Reader

/-- What a part of the text reads as, with the text that is left. -/
abbrev Scan (α : Type) := List Char → Except WallTimeFault (α × List Char)

def digitsValue (ds : List Char) : Nat :=
  ds.foldl (fun n c => 10 * n + (c.toNat - '0'.toNat)) 0

/-- A number of at least one digit and at most `most`, below `2 ^ 63`. -/
def number (most : Nat) : Scan Nat := fun cs =>
  match cs with
  | [] => .error .tooShort
  | c :: _ =>
    if !c.isDigit then .error .invalid
    else
      let ds := (cs.take most).takeWhile Char.isDigit
      let n := digitsValue ds
      if n < UInt64.size / 2 then .ok (n, cs.drop ds.length) else .error .outOfRange

def literal (c : Char) : Scan Unit
  | [] => .error .tooShort
  | d :: rest => if d = c then .ok ((), rest) else .error .invalid

/-- A number between `least` and `most`, of at most two digits, after blanks. -/
def field (least most : Nat) : Scan Nat := fun cs => do
  let (n, rest) ← number 2 (dropBlanks cs)
  if least ≤ n ∧ n ≤ most then .ok (n, rest) else .error .outOfRange

def year : Scan Int := fun cs => do
  let (n, rest) ← match dropBlanks cs with
    | '-' :: rest => (number rest.length rest).map fun (n, rest) => (-(n : Int), rest)
    | '+' :: rest => (number rest.length rest).map fun (n, rest) => ((n : Int), rest)
    | rest => (number 4 rest).map fun (n, rest) => ((n : Int), rest)
  if -2147483648 ≤ n ∧ n < 2147483648 then .ok (n, rest) else .error .outOfRange

/-- A fraction of a second in nanoseconds; digits after the ninth do not count. -/
def fraction : Scan Nat
  | '.' :: cs => do
    let (n, rest) ← number 9 cs
    let length := cs.length - rest.length
    .ok (n * Nat.pow 10 (9 - length), rest.dropWhile Char.isDigit)
  | cs => .ok (0, cs)

/-- Two digits, of which the first is at most `first`. -/
def twoDigits (first : Nat) : Scan Nat := fun cs =>
  match cs with
  | a :: b :: rest =>
    if a.isDigit && b.isDigit then
      let n := digitsValue [a, b]
      if n < 10 * (first + 1) then .ok (n, rest) else .error .outOfRange
    else if byteLength cs < 2 then .error .tooShort
    else .error .invalid
  | _ => if byteLength cs < 2 then .error .tooShort else .error .invalid

/-- The zone's distance from universal time in seconds. -/
def zone : Scan Int := fun cs => do
  match cs with
  | 'Z' :: rest | 'z' :: rest => return (0, rest)
  | u :: t :: c :: rest =>
    if u.toLower = 'u' && t.toLower = 't' && c.toLower = 'c' then return (0, rest)
  | _ => pure ()
  let (negative, rest) ← match cs with
    | '+' :: rest => .ok (false, rest)
    | '-' :: rest | '\u2212' :: rest => .ok (true, rest)
    | [] => .error .tooShort
    | _ => .error .invalid
  let (hours, rest) ← twoDigits 9 rest
  let (minutes, rest) ← twoDigits 5 (rest.dropWhile fun c => c = ':' || isBlank c)
  let seconds : Int := (hours * 3600 + minutes * 60 : Nat)
  .ok (if negative then -seconds else seconds, rest)

def leastYear : Int := -262143
def mostYear : Int := 262142

/-- The first second of the least year and the last of the greatest. -/
def leastSecond : Int := (⟨leastYear, 1, 1⟩ : CivilDate).toDays * 86400
def mostSecond : Int := (⟨mostYear + 1, 1, 1⟩ : CivilDate).toDays * 86400 - 1

def separator : Scan Unit
  | 'T' :: rest | 't' :: rest | ' ' :: rest => .ok ((), rest)
  | [] => .error .tooShort
  | _ => .error .invalid

/-- The time in a text that holds nothing else. -/
def read (cs : List Char) : Except WallTimeFault WallTime := do
  let (y, cs) ← year cs
  let (_, cs) ← literal '-' (dropBlanks cs)
  let (m, cs) ← field 1 12 cs
  let (_, cs) ← literal '-' (dropBlanks cs)
  let (d, cs) ← field 1 31 cs
  let (_, cs) ← separator cs
  let (hour, cs) ← field 0 23 cs
  let (_, cs) ← literal ':' (dropBlanks cs)
  let (minute, cs) ← field 0 59 cs
  let (_, cs) ← literal ':' (dropBlanks cs)
  let (second, cs) ← field 0 60 cs
  let (nanos, cs) ← fraction cs
  let (offset, cs) ← zone (dropBlanks cs)
  if dropBlanks cs ≠ [] then throw .tooLong
  let date : CivilDate := ⟨y, m, d⟩
  if !date.isValid || y < leastYear || mostYear < y then throw .outOfRange
  if 86400 ≤ offset.natAbs then throw .outOfRange
  let leap := second = 60
  let seconds := date.toDays * 86400 + (hour * 3600 + minute * 60 + min second 59 : Nat) - offset
  if seconds < leastSecond || mostSecond < seconds then throw .impossible
  .ok ⟨seconds, if leap then nanos + 1000000000 else nanos⟩

end WallTime.Reader

def WallTime.ofText? (s : String) : Except WallTimeFault WallTime :=
  WallTime.Reader.read s.toList

end SensorFleet
