import SensorFleet.Clock
import SensorFleet.Metrics
import SensorFleet.Notice
import SensorFleet.Reading
import SensorFleet.Source.Source
/-!
What all tasks of a fleet share: the instant, the cancellation, the two queues, what it takes
from outside and the journal. Readings pass from the primary queue into the fan-out.
-/
namespace SensorFleet

/-- Who may wait at a queue. -/
inductive Party
  | slot (index : Nat)
  | producer (index : Nat)
  | aggregator
  | publisher
  | caller (index : Nat)
deriving DecidableEq, Repr

inductive Stage
  | primary
  | fanout
deriving DecidableEq, Repr

/-- How a task ended. -/
inductive Ending (α : Type)
  | returned (value : α)
  | crashed (c : Crash)
deriving DecidableEq, Repr

/-- What became of a reading that the publisher took. -/
inductive PublishOutcome
  | published
  | failed (e : PublishError)
  | dropped
deriving DecidableEq, Repr

/-- Something that happened in a run. -/
inductive Happening
  | notice (n : Notice)
  | entered (stage : Stage) (r : Reading)
  | taken (stage : Stage) (r : Reading)
  | sourceMade (id : ProducerId)
  | sampled (id : ProducerId)
  | publishBegun (r : Reading)
  | publishOver (r : Reading) (outcome : PublishOutcome)
  | brokerClosed (error : Option PublishError)
deriving DecidableEq, Repr

/-- An entry of the journal: what happened, and when. -/
structure Entry where
  instant : Nat
  what : Happening
deriving DecidableEq, Repr

abbrev ReadingQueue := Channel Party Reading

namespace ReadingQueue

/-- The most readings that a queue can be asked to hold. -/
def mostCapacity : Nat := (UInt64.size / 2 - 1) / 24

/-- A new queue, or the crash when it is asked to hold too much. -/
def ofCapacity (capacity : Nat) : Except Crash ReadingQueue :=
  if mostCapacity < capacity then .error (.text "capacity overflow")
  else .ok (Channel.new capacity)

end ReadingQueue

structure Scene where
  now : Nat := 0
  cancelled : Bool := false
  primary : ReadingQueue
  /-- Nothing enters it unless the aggregator forwards. -/
  fanout : ReadingQueue
  clock : Clock
  /-- How often the clock was looked at. -/
  looks : Nat := 0
  sources : SourceFactory
  /-- How many sources were made for each producer. -/
  created : Std.ExtTreeMap ProducerId Nat := ∅
  totalCreated : Nat := 0
  broker : Broker
  metrics : Metrics := {}
  /-- Whether observations are counted. -/
  counts : Bool := true
  /-- Latest first. -/
  journal : List Entry := []

namespace Scene

def record (s : Scene) (what : Happening) : Scene :=
  { s with journal := ⟨s.now, what⟩ :: s.journal }

def log (s : Scene) (n : Notice) : Scene := s.record (.notice n)

def count (s : Scene) (o : Observation) : Scene :=
  if s.counts then { s with metrics := s.metrics.note o } else s

/-- Logs the moves of a slot from a state through others. -/
def logPath (s : Scene) (id : ProducerId) (source : SlotState) : List SlotState → Scene
  | [] => s
  | target :: rest => (s.log (.slotMoved id source target)).logPath id target rest

def readClock (s : Scene) : WallTime × Scene :=
  (s.clock s.looks s.now, { s with looks := s.looks + 1 })

def makeSource (s : Scene) (id : ProducerId) : Creation × Scene :=
  let nth := s.created.getD id 0
  let s' := { s with created := s.created.insert id (nth + 1), totalCreated := s.totalCreated + 1 }
  (s.sources id nth s.totalCreated, s'.record (.sourceMade id))

def queue (s : Scene) : Stage → ReadingQueue
  | .primary => s.primary
  | .fanout => s.fanout

def setQueue (s : Scene) (stage : Stage) (q : ReadingQueue) : Scene :=
  match stage with
  | .primary => { s with primary := q }
  | .fanout => { s with fanout := q }

def afterSend (s : Scene) (stage : Stage) (r : Reading) :
    SendLook × ReadingQueue → SendLook × Scene
  | (.accepted, q) => (.accepted, (s.setQueue stage q).record (.entered stage r))
  | (look, q) => (look, s.setQueue stage q)

/-- A party looks whether its reading can enter. -/
def send (s : Scene) (stage : Stage) (who : Party) (r : Reading) : SendLook × Scene :=
  s.afterSend stage r ((s.queue stage).send who r)

/-- A woken party looks again whether its reading can enter. -/
def resend (s : Scene) (stage : Stage) (who : Party) (r : Reading) : SendLook × Scene :=
  s.afterSend stage r ((s.queue stage).resend who r)

def offer (s : Scene) (stage : Stage) (r : Reading) : Option Refusal × Scene :=
  match (s.queue stage).offer r with
  | (none, q) => (none, (s.setQueue stage q).record (.entered stage r))
  | (some e, q) => (some e, s.setQueue stage q)

def afterRecv (s : Scene) (stage : Stage) :
    RecvLook Reading × ReadingQueue → RecvLook Reading × Scene
  | (.item r, q) => (.item r, (s.setQueue stage q).record (.taken stage r))
  | (look, q) => (look, s.setQueue stage q)

/-- A party looks for a reading; `parked` tells whether it was woken for that. -/
def recv (s : Scene) (stage : Stage) (who : Party) (parked : Bool) : RecvLook Reading × Scene :=
  let q := s.queue stage
  s.afterRecv stage (if parked then q.rerecv who else q.recv who)

/-- Takes a reading if there is one. -/
def poll (s : Scene) (stage : Stage) (who : Party) : RecvLook Reading × Scene :=
  s.afterRecv stage ((s.queue stage).poll who)

/-- A party that may be parked turns to something else. -/
def abandonRecv (s : Scene) (stage : Stage) (who : Party) (parked : Bool) : Scene :=
  if parked then s.setQueue stage ((s.queue stage).abandonRecv who) else s

def abandonSend (s : Scene) (stage : Stage) (who : Party) : Scene :=
  s.setQueue stage ((s.queue stage).abandonSend who)

/-- Closes a queue and tells whether it was open. -/
def close (s : Scene) (stage : Stage) : Bool × Scene :=
  let q := s.queue stage
  (!q.isClosed, s.setQueue stage q.close)

/-- The notices of the journal, in order. -/
def notices (s : Scene) : List Notice :=
  s.journal.reverse.filterMap fun e =>
    match e.what with
    | .notice n => some n
    | _ => none

end Scene
end SensorFleet
