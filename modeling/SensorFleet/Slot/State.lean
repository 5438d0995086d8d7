/-!
Life cycle of a producer slot. Every run starts, may fault and start again, and every slot ends
stopped by way of stopping.
-/
namespace SensorFleet

inductive SlotState
  | starting
  | running
  | faulted
  | stopping
  | stopped
deriving DecidableEq, Repr, Inhabited

namespace SlotState

def name : SlotState → String
  | starting => "starting"
  | running => "running"
  | faulted => "faulted"
  | stopping => "stopping"
  | stopped => "stopped"

/-- The name as messages show it. -/
def title : SlotState → String
  | starting => "Starting"
  | running => "Running"
  | faulted => "Faulted"
  | stopping => "Stopping"
  | stopped => "Stopped"

def all : List SlotState := [starting, running, faulted, stopping, stopped]

def ofName? (s : String) : Option SlotState := all.find? fun x => x.name = s

theorem ofName?_name (x : SlotState) : ofName? x.name = some x := by cases x <;> decide

def canMoveTo : SlotState → SlotState → Bool
  | starting, running | starting, stopping => true
  | running, faulted | running, stopping => true
  | faulted, starting | faulted, stopping => true
  | stopping, stopped => true
  | _, _ => false

def isTerminal (s : SlotState) : Bool := s = stopped

/-- The states to pass through on the way to stopped. -/
def pathToStop : SlotState → List SlotState
  | stopped => []
  | stopping => [stopped]
  | _ => [stopping, stopped]

end SlotState
end SensorFleet
