import SensorFleet.Fleet.Run
/-!
Supervision of a slot. A supervisor starts a run, waits for its end, and starts another one after a
crash unless the fleet was cancelled meanwhile. A crash of the run is a fault of the slot; a crash
while its source is made ends the supervisor itself.
-/
namespace SensorFleet

inductive SupervisorPhase
  | created
  | supervising (station : Station)
  | ended (e : Ending (Except SlotError SlotReport))

structure Supervisor where
  slot : Slot
  interval : Nat
  sent : Nat := 0
  phase : SupervisorPhase := .created
  /-- The instant at which it ended. -/
  endedAt : Nat := 0
  /-- Whether its end was taken note of. -/
  joined : Bool := false

namespace Supervisor

def new (id : ProducerId) (interval : Nat) : Supervisor :=
  { slot := { id := id }, interval := interval }

def ending? (t : Supervisor) : Option (Ending (Except SlotError SlotReport)) :=
  match t.phase with
  | .ended e => some e
  | _ => none

def hasEnded (t : Supervisor) : Bool := t.ending?.isSome

def endWith (t : Supervisor) (s : Scene) (e : Ending (Except SlotError SlotReport)) :
    Supervisor × Scene :=
  ({ t with phase := .ended e, endedAt := s.now }, s)

/-- Moves the slot to its end and reports. -/
def finish (t : Supervisor) (s : Scene) : Supervisor × Scene :=
  match t.slot.stop with
  | .error e => t.endWith s (.returned (.error e))
  | .ok slot =>
    { t with slot := slot }.endWith (s.logPath slot.id t.slot.state t.slot.state.pathToStop)
      (.returned (.ok (slot.report t.sent)))

/-- Starts the next run, unless the fleet is cancelled. -/
def launch (t : Supervisor) (s : Scene) : Supervisor × Scene :=
  if s.cancelled then t.finish s
  else
    match s.makeSource t.slot.id with
    | (.crash c, s) => t.endWith s (.crashed c)
    | (.source source, s) =>
      match t.slot.startRun with
      | .error e => t.endWith s (.returned (.error e))
      | .ok slot =>
        let run : Run := { id := slot.id, interval := t.interval, source := source }
        ({ t with slot := slot, phase := .supervising ⟨run, t.sent⟩ },
          (s.log (.slotMoved slot.id t.slot.state .running)).count (.producerStarted slot.id))

/-- Records the crash of a run as a fault and goes on to the next run. -/
def afterCrash (t : Supervisor) (s : Scene) (c : Crash) : Supervisor × Scene :=
  match t.slot.recordFault c.message with
  | .error e => t.endWith s (.returned (.error e))
  | .ok slot =>
    let fault : ProducerFault := ⟨slot.id, slot.attempts, c.message⟩
    let s := s.log (.slotMoved slot.id t.slot.state .faulted)
    let s := (s.count (.producerRestarted slot.id)).log (.producerFaulted fault)
    let t := { t with slot := slot }
    if s.cancelled then t.finish (s.log (.notRestarting slot.id))
    else
      match slot.moveTo .starting with
      | .error e => t.endWith s (.returned (.error e))
      | .ok next =>
        let s := s.log (.slotMoved slot.id slot.state .starting)
        { t with slot := next }.launch (s.log (.restarting slot.id next.restarts))

/-- Goes on after the end of a run. -/
def afterRun (t : Supervisor) (s : Scene) (e : Ending RunResult) : Supervisor × Scene :=
  let s := s.count (.producerStopped t.slot.id)
  match e with
  | .returned .finished => t.finish s
  | .returned .refused => t.finish (s.log (.sendRefused t.slot.id))
  | .crashed c => t.afterCrash s c

def isReady (t : Supervisor) : Bool :=
  match t.phase with
  | .created => true
  | .supervising station => station.ending?.isSome
  | .ended _ => false

def step (t : Supervisor) (s : Scene) : Supervisor × Scene :=
  match t.phase with
  | .created => t.launch s
  | .supervising station =>
    match station.ending? with
    | some e => { t with sent := station.sent }.afterRun s e
    | none => (t, s)
  | .ended _ => (t, s)

/-- Whether the run under supervision can go on. -/
def isRunReady (t : Supervisor) (who : Party) (s : Scene) : Bool :=
  match t.phase with
  | .supervising station => station.isReady who s
  | _ => false

def stepRun (t : Supervisor) (who : Party) (s : Scene) : Supervisor × Scene :=
  match t.phase with
  | .supervising station =>
    let (station, s) := station.step who s
    ({ t with phase := .supervising station, sent := station.sent }, s)
  | _ => (t, s)

def alarms (t : Supervisor) : List Nat :=
  match t.phase with
  | .supervising station => station.alarms
  | _ => []

end Supervisor
end SensorFleet
