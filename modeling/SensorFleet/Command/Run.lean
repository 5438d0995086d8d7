import SensorFleet.Command.LogFilter
import SensorFleet.Command.LogLine
import SensorFleet.Command.Usage
import SensorFleet.Fleet.Simulation
/-!
Runs of the command: what it logs, what it says on standard error, and with which code it ends.
-/
namespace SensorFleet.Command

/-- Why a run fails, with the causes from the outermost on. -/
structure Failure where
  context : String
  causes : List String

namespace Failure

def numbered (causes : List String) : List String :=
  causes.zipIdx.map fun (c, i) => "    " ++ toString i ++ ": " ++ c ++ "\n"

/-- Several causes are numbered. -/
def text (f : Failure) : String :=
  "Error: " ++ f.context ++ "\n\nCaused by:\n" ++
    match f.causes with
    | [c] => "    " ++ c ++ "\n"
    | cs => String.join (numbered cs)

def ofBuild (e : BuildError) : Failure :=
  ⟨"invalid simulation setup", e.message :: match e with
    | .invalidConfig c => [c.message]
    | .missingBroker => []⟩

def ofRun (e : SimError) : Failure := ⟨"simulation failed", [e.message]⟩

end Failure

/-- What a run takes from outside. -/
structure Surroundings where
  clock : Clock
  /-- Random bits for the name of the run and for sources without a seed. -/
  entropy : Nat := 0
  signal : Option Signal := none

/-- What a run shows: its log, its error text, its report and its exit code. -/
structure Outcome where
  lines : List LogLine
  format : LogFormat := .json
  complaint : String := ""
  report : Option SimReport := none
  code : Nat

/-- What is logged before a simulation is built. -/
def prelude (s : Settings) : List LogLine :=
  if s.config.publishes then [.loopback s.config] else []

/-- The equipment of a run. A signal comes as soon as everything has started. -/
def equipmentFor (s : Settings) (w : Surroundings) : Equipment :=
  { clock := w.clock
    sources := SourceFactory.seeded (s.seed.getD w.entropy.toUInt64)
    broker := if s.config.publishes then some { kind := .loopback } else none
    random := w.entropy / UInt64.size
    interrupt := w.signal.map fun _ => Instant.ofMillis 1 }

/-- The log line of a notice; the signal is logged just before the interrupt that it causes. -/
def linesOf (signal : Option Signal) (n : Notice) : List LogLine :=
  match n, signal with
  | .interrupted, some s => [.signalled s, .ofNotice n]
  | _, _ => [.ofNotice n]

/-- How a run ends whose simulation has ended or cannot go on. -/
def conclude (s : Settings) (lines : List LogLine) (m : Simulation) : Outcome :=
  match m.result? with
  | none => { lines := lines, code := 1 }
  | some (.error e) => { lines := lines, complaint := (Failure.ofRun e).text, code := 1 }
  | some (.ok r) =>
    { lines := lines ++ [.summary r m.scene.metrics.snapshot]
      report := if s.printsReport then some r else none
      code := 0 }

/-- A simulation that has started, or the outcome if there is none. -/
def launch (s : Settings) (w : Surroundings) : Except Outcome Simulation :=
  let p := equipmentFor s w
  match Simulation.check s.config p.broker.isSome with
  | .error e => .error { lines := prelude s, complaint := (Failure.ofBuild e).text, code := 1 }
  | .ok () => match Simulation.start s.config p with
    | .error c =>
      .error { lines := prelude s ++ [.starting s.config], complaint := c.message ++ "\n", code := 101 }
    | .ok m => .ok m

/-- A whole run, as if no time passed but that of its timers. -/
def run (s : Settings) (w : Surroundings) : Outcome :=
  match launch s w with
  | .error o => o
  | .ok m =>
    let m := m.play Instant.limit []
    conclude s
      (prelude s ++ [.starting s.config] ++ m.scene.notices.flatMap (linesOf w.signal)) m

/-- The outcome of words that lead to no run. -/
def outcomeOf (stop : Stop) : Outcome :=
  match stop with
  | .help | .version => { lines := [], code := 0 }
  | e => { lines := [], complaint := e.message ++ "\n", code := 2 }

/-- The filter that a variable asks for, or the standard one if it cannot be read. -/
def filterOf (lookup : String → Option String) : LogFilter :=
  ((lookup "RUST_LOG").bind LogFilter.ofText?).getD LogFilter.standard

/-- The command: what it does with its words and its variables. -/
def perform (words : List String) (lookup : String → Option String) (w : Surroundings) : Outcome :=
  match settings words lookup with
  | .error stop => outcomeOf stop
  | .ok s =>
    let o := run s w
    { o with
      lines := o.lines.filter fun l => (filterOf lookup).admits l.level l.target
      format := s.logFormat }

end SensorFleet.Command
