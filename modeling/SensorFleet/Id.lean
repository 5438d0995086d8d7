import SensorFleet.Text.Base32
import SensorFleet.Text.Blank
import SensorFleet.Time.WallTime
/-!
Names of producers and of runs. A producer is numbered; a run has 48 bits of start time followed
by 80 random bits, so that runs sort by their start, as numbers and as texts.
-/
namespace SensorFleet

/-- The number of a producer slot; a restarted producer keeps it. -/
abbrev ProducerId := UInt32

def ProducerId.text (id : ProducerId) : String := toString id.toNat

structure RunId where
  bits : BitVec 128
deriving DecidableEq, Repr

inductive RunIdFault
  | length
  | character
deriving DecidableEq, Repr

def RunIdFault.message : RunIdFault → String
  | .length => "invalid length"
  | .character => "invalid character"

namespace RunId

def timestamp (r : RunId) : Nat := (r.bits.extractLsb' 80 48).toNat

def random (r : RunId) : Nat := (r.bits.extractLsb' 0 80).toNat

/-- Of the milliseconds only 48 bits are kept, of the random part 80. -/
def ofParts (millis random : Nat) : RunId :=
  ⟨BitVec.ofNat 48 millis ++ BitVec.ofNat 80 random⟩

/-- The name of a run that starts at a time; times before 1970 count as 1970. -/
def generate (start : WallTime) (random : Nat) : RunId := ofParts start.millis.toNat random

/-- The digits of the name; the first one holds only three bits. -/
def digits (r : RunId) : String := String.ofList (Base32.encode 26 r.bits.toNat)

def text (r : RunId) : String := "run-" ++ r.digits

/-- Reads 26 digits; bits beyond the 128 are lost. -/
def ofDigits? (s : String) : Except RunIdFault RunId :=
  if byteLength s.toList ≠ 26 then .error .length
  else match Base32.decode? s.toList with
    | some n => .ok ⟨BitVec.ofNat 128 n⟩
    | none => .error .character

def isBefore (a b : RunId) : Bool := a.bits.toNat < b.bits.toNat

end RunId
end SensorFleet
