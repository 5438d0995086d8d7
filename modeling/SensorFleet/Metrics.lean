import Std.Data.ExtTreeMap
import SensorFleet.Crash
import SensorFleet.Id
import SensorFleet.Time.Duration
/-!
Counters of a run, per producer and in total. Whatever happens is told to them as an observation;
all observations but the broker's connection commute.
-/
namespace SensorFleet

/-- What is counted for one producer. Latencies are summed in nanoseconds. -/
structure Counters where
  sent : Nat := 0
  restarts : Nat := 0
  published : Nat := 0
  failures : Std.ExtTreeMap String Nat := ∅
  attempts : Nat := 0
  latency : Nat := 0

instance : Inhabited Counters := ⟨{}⟩

namespace Counters

def failureCount (c : Counters) : Nat := c.failures.foldl (fun n _ k => n + k) 0

def addFailure (c : Counters) (reason : String) : Counters :=
  { c with failures := c.failures.insert reason (c.failures.getD reason 0 + 1) }

end Counters

inductive Observation
  | producerStarted (id : ProducerId)
  | producerStopped (id : ProducerId)
  | readingSent (id : ProducerId)
  | readingReceived
  | producerRestarted (id : ProducerId)
  | publishSucceeded (id : ProducerId)
  | publishFailed (id : ProducerId) (reason : String)
  | publishLatency (id : ProducerId) (latency : Nat)
  | brokerConnection (connected : Bool)
deriving DecidableEq, Repr

structure Metrics where
  active : Int := 0
  received : Nat := 0
  connected : Bool := false
  table : Std.ExtTreeMap ProducerId Counters := ∅

instance : Inhabited Metrics := ⟨{}⟩

/-- Totals over all producers. -/
structure MetricsSnapshot where
  active : Int
  sent : Nat
  received : Nat
  restarts : Nat
  published : Nat
  failures : Nat
  connected : Bool
deriving DecidableEq, Repr

namespace Metrics

/-- The counters of a producer, all zero if nothing was counted for it. -/
def producer (m : Metrics) (id : ProducerId) : Counters := m.table.getD id {}

/-- The producers for which something was counted, in order. -/
def producers (m : Metrics) : List ProducerId := m.table.keys

def update (m : Metrics) (id : ProducerId) (f : Counters → Counters) : Metrics :=
  { m with table := m.table.insert id (f (m.producer id)) }

/-- Takes note of an observation. A sum of latencies that would exceed the longest length of time
stays as it is. -/
def note (m : Metrics) : Observation → Metrics
  | .producerStarted _ => { m with active := m.active + 1 }
  | .producerStopped _ => { m with active := m.active - 1 }
  | .readingSent id => m.update id fun c => { c with sent := c.sent + 1 }
  | .readingReceived => { m with received := m.received + 1 }
  | .producerRestarted id => m.update id fun c => { c with restarts := c.restarts + 1 }
  | .publishSucceeded id => m.update id fun c => { c with published := c.published + 1 }
  | .publishFailed id reason => m.update id fun c => c.addFailure reason
  | .publishLatency id latency => m.update id fun c =>
      { c with
        attempts := c.attempts + 1
        latency := if c.latency + latency ≤ Duration.longest then c.latency + latency
          else c.latency }
  | .brokerConnection connected => { m with connected := connected }

/-- What taking note of an observation crashes with, if it does. -/
def refusal? (m : Metrics) : Observation → Option Crash
  | .publishLatency id latency =>
    if Duration.longest < (m.producer id).latency + latency then
      some (.text "overflow when adding durations")
    else none
  | _ => none

def sumOf (m : Metrics) (f : Counters → Nat) : Nat := m.table.foldl (fun n _ c => n + f c) 0

def snapshot (m : Metrics) : MetricsSnapshot :=
  { active := m.active
    sent := m.sumOf Counters.sent
    received := m.received
    restarts := m.sumOf Counters.restarts
    published := m.sumOf Counters.published
    failures := m.sumOf Counters.failureCount
    connected := m.connected }

end Metrics
end SensorFleet
