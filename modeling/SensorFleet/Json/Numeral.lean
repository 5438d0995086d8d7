import SensorFleet.Json.Fault
import SensorFleet.Number.Binary64
/-!
Numbers in JSON. Digits are gathered in a significand below `2 ^ 64`; a longer number drops the
digits that no longer fit and becomes a double, which is scaled by one multiplication or division
with a power of ten, so its last bit need not be the nearest one.
-/
namespace SensorFleet.Json

/-- A number as decoders see it: a whole one with 64 bits, or a double. -/
inductive Numeral
  | natural (n : Nat)
  | negative (n : Nat)
  | real (x : Binary64)
deriving DecidableEq, Repr

namespace Numeral

def digitValue (c : Char) : Nat := c.toNat - '0'.toNat

/-- Takes digits into a significand while it stays below `2 ^ 64`; also counts those taken. -/
def absorb (significand : Nat) : List Char → Nat × Nat
  | [] => (significand, 0)
  | d :: ds =>
    let s := 10 * significand + digitValue d
    if s < UInt64.size then
      let (t, k) := absorb s ds
      (t, k + 1)
    else (significand, 0)

/-- The exactly rounded power of ten. -/
def power (k : Nat) : Binary64 := Binary64.ofDecimal false 1 k

/-- `x * 10 ^ exponent`. Exponents below -308 are worked off in steps. -/
def scaled : Nat → Binary64 → Int → Except Fault Binary64
  | 0, x, _ => .ok x
  | fuel + 1, x, e =>
    if 0 ≤ e ∧ e ≤ 308 then
      let y := x.mul (power e.toNat)
      if y.isFinite then .ok y else .error .malformed
    else if -308 ≤ e ∧ e < 0 then .ok (x.div (power (-e).toNat))
    else if x.isZero then .ok x
    else if 0 ≤ e then .error .malformed
    else scaled fuel (x.div (power 308)) (e + 308)

/-- The double with a significand, an exponent and a sign. -/
def ofParts (isNegative : Bool) (significand : Nat) (exponent : Int) : Except Fault Binary64 := do
  let x ← scaled 8 (Binary64.ofNat significand) exponent
  return if isNegative then x.neg else x

/-- The digits of an exponent after its sign; too large a one is infinite unless the significand
is zero, too small a one gives zero. -/
def exponent (isNegative : Bool) (significand : Nat) (start : Int) :
    Decoder Binary64 := fun cs => do
  let (down, cs) := match cs with
    | '+' :: cs => (false, cs)
    | '-' :: cs => (true, cs)
    | cs => (false, cs)
  let ds := cs.takeWhile Char.isDigit
  let rest := cs.drop ds.length
  if ds.isEmpty then throw (if cs.isEmpty then .unfinished else .malformed)
  let e := ds.foldl (fun n d => 10 * n + digitValue d) 0
  if UInt32.size / 2 ≤ e then
    if significand ≠ 0 && !down then throw .malformed
    return (Binary64.zero isNegative, rest)
  let x ← ofParts isNegative significand (if down then start - e else start + e)
  return (x, rest)

/-- What follows the digits and the fraction of a double. -/
def tail (isNegative : Bool) (significand : Nat) (start : Int) : Decoder Binary64
  | 'e' :: cs | 'E' :: cs => exponent isNegative significand start cs
  | cs => (ofParts isNegative significand start).map fun x => (x, cs)

/-- The digits after a point. -/
def fraction (isNegative : Bool) (significand : Nat) (start : Int) : Decoder Binary64 := fun cs =>
  let ds := cs.takeWhile Char.isDigit
  if ds.isEmpty then .error (if cs.isEmpty then .unfinished else .malformed)
  else
    let (s, k) := absorb significand ds
    tail isNegative s (start - k) (cs.drop ds.length)

def ofWhole (isNegative : Bool) (n : Nat) : Numeral :=
  if !isNegative then natural n
  else if n = 0 ∨ UInt64.size / 2 < n then real (Binary64.ofNat n).neg
  else negative n

/-- A number whose sign was taken already. -/
def unsigned (isNegative : Bool) : Decoder Numeral := fun cs =>
  let ds := cs.takeWhile Char.isDigit
  let rest := cs.drop ds.length
  match cs, ds with
  | [], _ => .error .unfinished
  | _, [] => .error .malformed
  | _, '0' :: _ :: _ => .error .malformed
  | _, _ =>
    let (s, k) := absorb 0 ds
    let extra : Int := (ds.length - k : Nat)
    match rest with
    | '.' :: rest => (fraction isNegative s extra rest).map fun (x, rest) => (real x, rest)
    | 'e' :: _ | 'E' :: _ => (tail isNegative s extra rest).map fun (x, rest) => (real x, rest)
    | _ =>
      if k = ds.length then .ok (ofWhole isNegative s, rest)
      else (ofParts isNegative s extra).map fun x => (real x, rest)

/-- The nearest double. -/
def toBinary64 : Numeral → Binary64
  | natural n => Binary64.ofNat n
  | negative n => (Binary64.ofNat n).neg
  | real x => x

end Numeral
end SensorFleet.Json
