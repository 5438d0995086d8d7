import SensorFleet.Fleet.Scene
/-!
One run of a producer: at each tick it samples its source and sends the reading into the primary
queue, waiting for room if there is none. A run ends when it sees the cancellation at a tick, when
its reading is refused, or by a crash.
-/
namespace SensorFleet

inductive RunResult
  | finished
  | refused
deriving DecidableEq, Repr

inductive RunPhase
  | created
  | ticking (ticker : Ticker)
  | sending (ticker : Ticker) (reading : Reading)
  | ended (e : Ending RunResult)
deriving DecidableEq, Repr

structure Run where
  id : ProducerId
  interval : Nat
  source : Source
  /-- How often the source was drawn from. -/
  drawn : Nat := 0
  /-- The time of the last reading, below which the next ones do not go. -/
  last : Option WallTime := none
  phase : RunPhase := .created
  /-- The instant at which it ended. -/
  endedAt : Nat := 0

/-- A run together with the number of readings sent by it and the runs before it. -/
structure Station where
  run : Run
  sent : Nat := 0

namespace Station

def enter (t : Station) (phase : RunPhase) : Station :=
  { t with run := { t.run with phase := phase } }

def endWith (t : Station) (s : Scene) (e : Ending RunResult) : Station × Scene :=
  ({ t with run := { t.run with phase := .ended e, endedAt := s.now } }, s)

def ending? (t : Station) : Option (Ending RunResult) :=
  match t.run.phase with
  | .ended e => some e
  | _ => none

def isReady (t : Station) (who : Party) (s : Scene) : Bool :=
  match t.run.phase with
  | .created => true
  | .ticking ticker => s.cancelled || ticker.isDue s.now
  | .sending _ _ => s.primary.isWriterWoken who
  | .ended _ => false

/-- The instants for which the run waits. -/
def alarms (t : Station) : List Nat :=
  match t.run.phase with
  | .ticking ticker => [ticker.next]
  | _ => []

/-- What follows from a look at the queue with a reading at hand. -/
def afterSend (t : Station) (ticker : Ticker) (r : Reading) : SendLook × Scene → Station × Scene
  | (.accepted, s) =>
    ({ t.enter (.ticking ticker) with sent := t.sent + 1 }, s.count (.readingSent t.run.id))
  | (.refused, s) => t.endWith s (.returned .refused)
  | (.waits, s) => (t.enter (.sending ticker r), s)

/-- Draws a value and takes the time, which does not go back within a run. -/
def sample (t : Station) (s : Scene) : Except Crash (Reading × Station) × Scene :=
  let s := s.record (.sampled t.run.id)
  match t.run.source t.run.drawn with
  | .crash c => (.error c, s)
  | .value x =>
    let (shown, s) := s.readClock
    let time := match t.run.last with
      | some last => shown.latest last
      | none => shown
    (.ok (⟨t.run.id, x, time⟩,
      { t with run := { t.run with drawn := t.run.drawn + 1, last := some time } }), s)

def step (t : Station) (who : Party) (s : Scene) : Station × Scene :=
  match t.run.phase with
  | .created =>
    match Ticker.start? s.now t.run.interval with
    | .error e => t.endWith s (.crashed (.text e.message))
    | .ok ticker => (t.enter (.ticking ticker), s.log (.producerStarting t.run.id))
  | .ticking ticker =>
    if s.cancelled then
      t.endWith (s.log (.producerStopping t.run.id t.sent)) (.returned .finished)
    else
      match t.sample s with
      | (.error c, s) => t.endWith s (.crashed c)
      | (.ok (r, t), s) => t.afterSend (ticker.advance s.now) r (s.send .primary who r)
  | .sending ticker r => t.afterSend ticker r (s.resend .primary who r)
  | .ended _ => (t, s)

end Station
end SensorFleet
