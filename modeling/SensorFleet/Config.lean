import SensorFleet.Id
import SensorFleet.Time.Duration
/-!
Configuration of a simulation: its values, their defaults, and which of them are refused.
-/
namespace SensorFleet

inductive ConfigError
  | zeroCapacity
  | zeroDuration (name : String)
  | emptySubjectRoot
  | tooManyProducers (count : Nat)
deriving DecidableEq, Repr

def ConfigError.message : ConfigError → String
  | .zeroCapacity => "queue_capacity must be at least 1"
  | .zeroDuration name => name ++ " must be greater than zero"
  | .emptySubjectRoot => "subject_prefix must not be empty"
  | .tooManyProducers n => "producer_count " ++ toString n ++ " exceeds the producer id range"

structure Config where
  producers : Nat := 5000
  duration : Nat := Duration.ofSeconds 600
  interval : Nat := Duration.ofMillis 100
  capacity : Nat := 1000
  publishes : Bool := false
  brokerUrl : String := "nats://127.0.0.1:4222"
  subjectRoot : String := "iot.sensors"
  publishTimeout : Nat := Duration.ofSeconds 2
  /-- How long publishing goes on after cancellation. -/
  drainTimeout : Nat := Duration.ofSeconds 5
  summaryInterval : Nat := Duration.ofSeconds 5
  metricsAddress : String := "0.0.0.0:2112"
  profilingAddress : String := "127.0.0.1:6060"
deriving DecidableEq, Repr, Inhabited

namespace Config

/-- The greatest producer id, if the ids suffice. -/
def lastId (c : Config) : Except ConfigError Nat :=
  if c.producers < UInt32.size then .ok c.producers else .error (.tooManyProducers c.producers)

/-- The intervals that must not be zero, by name. -/
def positiveDurations (c : Config) : List (String × Nat) :=
  [("producer_interval", c.interval), ("summary_interval", c.summaryInterval),
    ("publish_timeout", c.publishTimeout)]

def validate (c : Config) : Except ConfigError Unit := do
  let _ ← c.lastId
  if c.capacity = 0 then throw .zeroCapacity
  match c.positiveDurations.find? fun d => d.2 = 0 with
  | some (name, _) => throw (.zeroDuration name)
  | none => if c.subjectRoot = "" then throw .emptySubjectRoot

end Config

/-- Why a simulation could not be built. -/
inductive BuildError
  | invalidConfig (e : ConfigError)
  | missingBroker
deriving DecidableEq, Repr

def BuildError.message : BuildError → String
  | .invalidConfig e => "invalid configuration: " ++ e.message
  | .missingBroker => "broker publishing is enabled but no broker client was provided"

end SensorFleet
