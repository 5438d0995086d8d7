import SensorFleet.Fleet.Scene
/-!
The aggregator, the only reader of the primary queue. It takes readings until the queue is closed
and empty, reports its counts at a steady pace, and forwards each reading into the fan-out if it
has one; a fan-out that is full or closed loses the reading, but never holds the aggregator up.
-/
namespace SensorFleet

structure AggregatorReport where
  received : Nat := 0
  forwarded : Nat := 0
  dropped : Nat := 0
deriving DecidableEq, Repr, Inhabited

def AggregatorReport.toJson (r : AggregatorReport) : Json :=
  .object [("received", .nat r.received), ("forwarded", .nat r.forwarded),
    ("dropped", .nat r.dropped)]

inductive AggregatorPhase
  | created
  /-- Waits for the cancellation, a tick or a reading; `parked` tells whether it is known at the
  queue. -/
  | waiting (ticker : Ticker) (parked : Bool)
  | ended (e : Ending AggregatorReport)
deriving DecidableEq, Repr

structure Aggregator where
  summaryInterval : Nat
  forwards : Bool
  phase : AggregatorPhase := .created
  report : AggregatorReport := {}
  /-- The count of readings at the last summary. -/
  lastSummary : Nat := 0
  draining : Bool := false
  endedAt : Nat := 0
deriving DecidableEq, Repr

namespace Aggregator

def ending? (a : Aggregator) : Option (Ending AggregatorReport) :=
  match a.phase with
  | .ended e => some e
  | _ => none

def isReady (a : Aggregator) (s : Scene) : Bool :=
  match a.phase with
  | .created => true
  | .waiting ticker parked =>
    (s.cancelled && !a.draining) || ticker.isDue s.now || !parked ||
      s.primary.isReaderWoken .aggregator
  | .ended _ => false

def alarms (a : Aggregator) : List Nat :=
  match a.phase with
  | .waiting ticker _ => [ticker.next]
  | _ => []

/-- Hands a reading on to the fan-out. -/
def forward (a : Aggregator) (s : Scene) (r : Reading) : Aggregator × Scene :=
  match s.offer .fanout r with
  | (none, s) => ({ a with report := { a.report with forwarded := a.report.forwarded + 1 } }, s)
  | (some e, s) =>
    let report := { a.report with dropped := a.report.dropped + 1 }
    let closed := e = .closed
    let s := s.count (.publishFailed r.producer "dropped")
    ({ a with report := report },
      s.log (if report.dropped = 1 then .fanoutUnavailable r.producer closed
        else .readingDropped r.producer closed))

def receive (a : Aggregator) (s : Scene) (r : Reading) : Aggregator × Scene :=
  let a := { a with report := { a.report with received := a.report.received + 1 } }
  let s := (s.count .readingReceived).log (.readingReceived r.producer r.value)
  if a.forwards then a.forward s r else (a, s)

def finish (a : Aggregator) (s : Scene) : Aggregator × Scene :=
  let s := if a.forwards then (s.close .fanout).2 else s
  let r := a.report
  ({ a with phase := .ended (.returned r), endedAt := s.now },
    s.log (.aggregatorStopping r.received r.forwarded r.dropped))

def start (a : Aggregator) (s : Scene) : Aggregator × Scene :=
  match Ticker.start? s.now a.summaryInterval with
  | .error e => ({ a with phase := .ended (.crashed (.text e.message)), endedAt := s.now }, s)
  | .ok ticker => ({ a with phase := .waiting ticker false }, s.log .aggregatorStarting)

def step (a : Aggregator) (s : Scene) : Aggregator × Scene :=
  match a.phase with
  | .created => a.start s
  | .waiting ticker parked =>
    let received := a.report.received
    if s.cancelled && !a.draining then
      let s := s.abandonRecv .primary .aggregator parked
      ({ a with draining := true, phase := .waiting ticker false },
        s.log (.drainingQueue received s.primary.length))
    else if ticker.isDue s.now then
      let s := s.abandonRecv .primary .aggregator parked
      ({ a with lastSummary := received, phase := .waiting (ticker.advance s.now) false },
        s.log (.aggregatorSummary received (received - a.lastSummary) s.primary.length))
    else
      match s.recv .primary .aggregator parked with
      | (.item r, s) => { a with phase := .waiting ticker false }.receive s r
      | (.ended, s) => a.finish s
      | (.waits, s) => ({ a with phase := .waiting ticker true }, s)
  | .ended _ => (a, s)

end Aggregator
end SensorFleet
