/-!
Double-precision numbers as their 64 bits. A finite number has the magnitude
`significand * 2 ^ scale`; `ofRatio` rounds an exact ratio to the nearest number, a tie to the
even significand, and every operation here is that rounding applied to an exact result.
-/
namespace SensorFleet

structure Binary64 where
  bits : UInt64
deriving DecidableEq, Repr, Inhabited

namespace Binary64

/-- The bit of the sign, set in negative numbers. -/
def signBit : Nat := 0x8000000000000000

/-- The leading bit of a significand of 53 bits, which is not written. -/
def leadingBit : Nat := 0x10000000000000

/-- The bits of positive infinity, as a number; smaller ones are finite magnitudes. -/
def infinityBits : Nat := 0x7ff0000000000000

def isNegative (x : Binary64) : Bool := signBit ≤ x.bits.toNat

def magnitudeBits (x : Binary64) : Nat := x.bits.toNat % signBit

def isFinite (x : Binary64) : Bool := x.magnitudeBits < infinityBits

def isZero (x : Binary64) : Bool := x.magnitudeBits = 0

def exponentField (x : Binary64) : Nat := x.magnitudeBits / leadingBit

def significand (x : Binary64) : Nat :=
  if x.exponentField = 0 then x.magnitudeBits else x.magnitudeBits % leadingBit + leadingBit

def scale (x : Binary64) : Int := (max x.exponentField 1 : Nat) - 1075

def ofMagnitude (negative : Bool) (magnitude : Nat) : Binary64 :=
  ⟨(magnitude + if negative then signBit else 0).toUInt64⟩

def zero (negative : Bool) : Binary64 := ofMagnitude negative 0

def infinity (negative : Bool) : Binary64 := ofMagnitude negative infinityBits

def neg (x : Binary64) : Binary64 := ofMagnitude (!x.isNegative) x.magnitudeBits

/-- The whole number nearest to `num / den`; of two, the even one. -/
def roundHalfEven (num den : Nat) : Nat :=
  let q := num / den
  let r := num % den
  if 2 * r < den then q
  else if den < 2 * r then q + 1
  else q + q % 2

/-- `num / den` multiplied by `2 ^ k`, as a pair. -/
def shift (num den : Nat) (k : Int) : Nat × Nat :=
  if 0 ≤ k then (num <<< k.toNat, den) else (num, den <<< (-k).toNat)

/-- The scale at which `num / den` has a significand of 53 bits, not below the least one. -/
def scaleOf (num den : Nat) : Int :=
  let guess : Int := num.log2 - den.log2 - 52
  let (n, d) := shift num den (-guess)
  max (if n / d < leadingBit then guess - 1 else guess) (-1074)

/-- The number nearest to `num / den`, of two the one with the even significand; from half a
unit beyond the largest number on, infinity. -/
def ofRatio (negative : Bool) (num den : Nat) : Binary64 :=
  if num = 0 then zero negative
  else
    let q := scaleOf num den
    let (n, d) := shift num den (-q)
    ofMagnitude negative (min ((q + 1074).toNat * leadingBit + roundHalfEven n d) infinityBits)

def ofNat (n : Nat) : Binary64 := ofRatio false n 1

/-- `digits * 10 ^ exponent`, rounded once. -/
def ofDecimal (negative : Bool) (digits : Nat) (exponent : Int) : Binary64 :=
  if 0 ≤ exponent then ofRatio negative (digits * Nat.pow 10 exponent.toNat) 1
  else ofRatio negative digits (Nat.pow 10 (-exponent).toNat)

/-- The magnitude as a ratio. -/
def ratio (x : Binary64) : Nat × Nat := shift x.significand 1 x.scale

/-- The product of two finite numbers. -/
def mul (x y : Binary64) : Binary64 :=
  ofRatio (x.isNegative != y.isNegative) (x.ratio.1 * y.ratio.1) (x.ratio.2 * y.ratio.2)

/-- The quotient of two finite numbers, of which the second is not zero. -/
def div (x y : Binary64) : Binary64 :=
  ofRatio (x.isNegative != y.isNegative) (x.ratio.1 * y.ratio.2) (x.ratio.2 * y.ratio.1)

end Binary64
end SensorFleet
