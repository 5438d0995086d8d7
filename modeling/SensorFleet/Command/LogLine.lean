import SensorFleet.Command.Usage
import SensorFleet.Report
/-!
Lines of the log: those of the simulation's notices and those of the command itself.
-/
namespace SensorFleet.Command

/-- The signals that end a run early. -/
inductive Signal
  | interrupt
  | quit
  | terminate
deriving DecidableEq, Repr

namespace Signal

def name : Signal → String
  | interrupt => "SIGINT"
  | quit => "SIGQUIT"
  | terminate => "SIGTERM"

def ofNumber? : Nat → Option Signal
  | 2 => some interrupt
  | 3 => some quit
  | 15 => some terminate
  | _ => none

end Signal

/-- One line of the log: how severe it is, where it comes from and what it says. -/
structure LogLine where
  level : Level
  target : String
  text : String
  fields : List (String × Json)

namespace LogLine

def ofNotice (n : Notice) : LogLine := ⟨n.level, n.origin.target, n.text, n.fields⟩

def loopback (c : Config) : LogLine :=
  ⟨.warn, "sensim", "using in-process loopback broker", [("url", .string c.brokerUrl)]⟩

def starting (c : Config) : LogLine :=
  ⟨.info, "sensim", "starting simulation", [("metrics_addr", .string c.metricsAddress),
    ("profiling_addr", .string c.profilingAddress)]⟩

def signalled (s : Signal) : LogLine :=
  ⟨.debug, "sensim::signal", "received signal", [("signal", .string s.name)]⟩

def summary (r : SimReport) (m : MetricsSnapshot) : LogLine :=
  ⟨.info, "sensim", "run summary", [("run_id", .string r.runId.text), ("sent", .nat r.sent),
    ("received", .nat r.received), ("restarts", .nat r.restarts),
    ("lossless", .bool r.isLossless), ("publish_dropped", .nat r.dropped),
    ("publish_success", .nat m.published), ("publish_failures", .nat m.failures),
    ("queue_high_watermark", .nat r.queueHighWater)]⟩

/-- The line as an object, with the time at which it was written. -/
def toJson (l : LogLine) (time : WallTime) : Json :=
  .object [("timestamp", .string time.text), ("level", .string l.level.name),
    ("fields", .object (("message", .string l.text) :: l.fields)), ("target", .string l.target)]

/-- A value as it stands in plain text. -/
def plainValue : Json → String
  | .string s => s
  | v => v.text

def plainText (l : LogLine) (time : WallTime) : String :=
  time.text ++ " " ++ l.level.name ++ " " ++ l.target ++ ": " ++
    " ".intercalate (l.text :: l.fields.map fun (k, v) => k ++ "=" ++ plainValue v)

def render (l : LogLine) (time : WallTime) : LogFormat → String
  | .json => (l.toJson time).text
  | .pretty => l.plainText time

end LogLine

end SensorFleet.Command
