import SensorFleet.Number.Binary64
/-!
Shortest decimal text of a double. Among the decimals that round to the number, `digits` takes
those with the fewest digits and of them the nearest one, a tie going to the even digit.
`Layout` then says where the point goes.
-/
namespace SensorFleet

/-- The decimal `digits * 10 ^ exponent`. -/
structure Decimal where
  digits : Nat
  exponent : Int
deriving DecidableEq, Repr

namespace Decimal

def length (d : Decimal) : Nat := (Nat.toDigits 10 d.digits).length

/-- The power of ten of the first digit. -/
def magnitude (d : Decimal) : Int := d.exponent + d.length - 1

end Decimal

namespace Binary64

/-- Four times the number and the ends of the interval of reals that round to it, over a common
denominator. The lower end is nearer at a power of two. -/
structure Interval where
  low : Nat
  value : Nat
  high : Nat
  den : Nat
  closed : Bool
deriving Repr

def interval (x : Binary64) : Interval :=
  let m := x.significand
  let below := if m = leadingBit ∧ 1 < x.exponentField then 1 else 2
  let k := x.scale - 2
  let up := if 0 ≤ k then 1 <<< k.toNat else 1
  let down := if 0 ≤ k then 1 else 1 <<< (-k).toNat
  ⟨(4 * m - below) * up, 4 * m * up, (4 * m + 2) * up, down, m % 2 = 0⟩

namespace Interval

/-- Whether `n / den` lies in the interval. -/
def holds (i : Interval) (n : Nat) : Bool :=
  if i.closed then i.low ≤ n && n ≤ i.high else i.low < n && n < i.high

/-- The largest power of ten not above the value, found near its binary logarithm. -/
def decade (i : Interval) : Int :=
  let guess : Int := ((i.value.log2 : Int) - (i.den.log2 : Int)) * 30103 / 100000 - 1
  let atMost (p : Int) : Bool :=
    if 0 ≤ p then i.den * Nat.pow 10 p.toNat ≤ i.value
    else i.den ≤ i.value * Nat.pow 10 (-p).toNat
  if atMost (guess + 2) then guess + 2
  else if atMost (guess + 1) then guess + 1
  else guess

/-- The better of the value's two neighbours among the multiples of `10 ^ p`, if one of them lies
in the interval. -/
def onGrid (i : Interval) (p : Int) : Option Decimal :=
  let up := if 0 ≤ p then 1 else Nat.pow 10 (-p).toNat
  let step := i.den * (if 0 ≤ p then Nat.pow 10 p.toNat else 1)
  let scaled : Interval := ⟨i.low * up, i.value * up, i.high * up, step, i.closed⟩
  let n := scaled.value / step
  let near := roundHalfEven scaled.value step
  let other := if near = n then n + 1 else n
  if near ≠ 0 && scaled.holds (near * step) then some ⟨near, p⟩
  else if other ≠ 0 && scaled.holds (other * step) then some ⟨other, p⟩
  else none

/-- Tries ever finer grids, from the one whose multiples have a single digit. -/
def search (i : Interval) (top : Int) : Nat → Option Decimal
  | 0 => none
  | k + 1 => (search i top k).orElse fun _ => i.onGrid (top - k)

end Interval

/-- Removes zeros at the end. -/
def trimZeros (fuel : Nat) (d : Decimal) : Decimal :=
  match fuel with
  | 0 => d
  | n + 1 => if d.digits % 10 = 0 then trimZeros n ⟨d.digits / 10, d.exponent + 1⟩ else d

/-- The shortest decimal that rounds to the magnitude of a finite number. -/
def shortest (x : Binary64) : Decimal :=
  if x.isZero then ⟨0, 0⟩
  else
    let i := x.interval
    trimZeros 17 ((i.search i.decade 17).getD ⟨0, 0⟩)

end Binary64

/-- How a decimal is written: positionally when the power of ten of its first digit lies between
`least` and `most`, otherwise with an exponent. -/
structure Layout where
  least : Int
  most : Int
  positiveSign : String
  notFinite : String

namespace Layout

def zeros (n : Nat) : String := String.ofList (List.replicate n '0')

def positional (d : Decimal) : String :=
  let ds := Nat.toDigits 10 d.digits
  if 0 ≤ d.exponent then String.ofList ds ++ zeros d.exponent.toNat ++ ".0"
  else
    let places := (-d.exponent).toNat
    if places < ds.length then
      String.ofList (ds.take (ds.length - places)) ++ "." ++ String.ofList (ds.drop (ds.length - places))
    else "0." ++ zeros (places - ds.length) ++ String.ofList ds

def exponential (l : Layout) (d : Decimal) : String :=
  let ds := Nat.toDigits 10 d.digits
  let point := if ds.length = 1 then "" else "."
  let e := d.magnitude
  String.ofList (ds.take 1) ++ point ++ String.ofList (ds.drop 1) ++ "e" ++
    (if 0 ≤ e then l.positiveSign else "-") ++ toString e.natAbs

def text (l : Layout) (x : Binary64) : String :=
  if !x.isFinite then l.notFinite
  else
    let d := x.shortest
    let sign := if x.isNegative then "-" else ""
    sign ++ if x.isZero || (l.least ≤ d.magnitude && d.magnitude ≤ l.most) then positional d
      else l.exponential d

end Layout
end SensorFleet
