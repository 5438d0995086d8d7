import SensorFleet.Id
import SensorFleet.Json.Value
import SensorFleet.Slot.State
/-!
The record of one producer slot: its state, the runs that it started and the faults that ended
them. A refused move leaves the slot as it was.
-/
namespace SensorFleet

/-- The abnormal end of one run: which run of which slot it was, and what was reported. -/
structure ProducerFault where
  producer : ProducerId
  attempt : Nat
  message : String
deriving DecidableEq, Repr

def ProducerFault.toJson (f : ProducerFault) : Json :=
  .object [("producer_id", .nat f.producer.toNat), ("attempt", .nat f.attempt),
    ("message", .string f.message)]

/-- A move that the life cycle does not allow. -/
structure SlotError where
  id : ProducerId
  source : SlotState
  target : SlotState
deriving DecidableEq, Repr

def SlotError.message (e : SlotError) : String :=
  "invalid slot transition for producer " ++ e.id.text ++ ": " ++ e.source.title ++ " -> " ++
    e.target.title

/-- What a slot reports when its supervision ends. -/
structure SlotReport where
  producer : ProducerId
  state : SlotState
  sent : Nat
  restarts : Nat
  faults : List ProducerFault
deriving DecidableEq, Repr

namespace SlotReport

/-- A report without faults leaves them out. -/
def toJson (r : SlotReport) : Json :=
  .object ([("producer_id", .nat r.producer.toNat), ("state", .string r.state.name),
    ("sent", .nat r.sent), ("restarts", .nat r.restarts)] ++
    if r.faults.isEmpty then [] else [("faults", .array (r.faults.map ProducerFault.toJson))])

end SlotReport

structure Slot where
  id : ProducerId
  state : SlotState := .starting
  attempts : Nat := 0
  faults : List ProducerFault := []
deriving DecidableEq, Repr, Inhabited

namespace Slot

def moveTo (s : Slot) (next : SlotState) : Except SlotError Slot :=
  if s.state.canMoveTo next then .ok { s with state := next } else .error ⟨s.id, s.state, next⟩

/-- Starts a run and counts it. -/
def startRun (s : Slot) : Except SlotError Slot := do
  let s ← s.moveTo .running
  return { s with attempts := s.attempts + 1 }

def recordFault (s : Slot) (message : String) : Except SlotError Slot := do
  let s ← s.moveTo .faulted
  return { s with faults := s.faults ++ [⟨s.id, s.attempts, message⟩] }

/-- One restart follows each fault. -/
def restarts (s : Slot) : Nat := s.faults.length

/-- Brings the slot to its end from any state; a stopped slot stays as it is. -/
def stop (s : Slot) : Except SlotError Slot := s.state.pathToStop.foldlM moveTo s

def report (s : Slot) (sent : Nat) : SlotReport := ⟨s.id, s.state, sent, s.restarts, s.faults⟩

end Slot
end SensorFleet
