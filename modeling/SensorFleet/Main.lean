import Std.Time.DateTime.Timestamp
import SensorFleet.Command.Run
import SensorFleet.Json.Pretty
/-!
The program: it reads its words and variables, lets the simulation go on as the timers of the
simulation come due in real time, and prints the log as it grows.
-/
namespace SensorFleet.Command

def currentTime : IO WallTime := do
  let nanos : Int := (← Std.Time.Timestamp.now).toNanosecondsSinceUnixEpoch.val
  return ⟨nanos / 1000000000, (nanos % 1000000000).toNat⟩

/-- Sixteen random bytes as a number. -/
def randomBits : IO Nat := do
  return (← IO.getRandomBytes 16).foldl (fun n b => n * 256 + b.toNat) 0

/-- The variables that the command looks at. -/
def readVariables : IO (String → Option String) := do
  let names := "RUST_LOG" :: (options.filter OptionSpec.hasVariable).map OptionSpec.variableName
  let found ← names.filterMapM fun name => do return (← IO.getEnv name).map fun v => (name, v)
  return fun name => found.lookup name

def printLines (format : LogFormat) (filter : LogFilter) (lines : List LogLine) : IO Unit := do
  for l in lines do
    if filter.admits l.level l.target then IO.println (l.render (← currentTime) format)

/-- Waits until an instant of a run that started at `origin` on the monotonic clock. -/
def waitUntil (origin instant : Nat) : IO Unit := do
  let passed := (← IO.monoNanosNow) - origin
  if passed < instant then IO.sleep (min ((instant - passed + 999999) / 1000000) 1000).toUInt32

/-- Lets a simulation go on in real time until it ends. `printed` notices were printed before. -/
partial def pace (origin : Nat) (format : LogFormat) (filter : LogFilter) (printed : Nat)
    (m : Simulation) : IO Simulation := do
  let m := Simulation.machine.settle Machine.patience Machine.patience m
  let notices := m.scene.notices
  printLines format filter ((notices.drop printed).map LogLine.ofNotice)
  if m.hasEnded then return m
  match Simulation.machine.nextRing? m with
  | none =>
    IO.sleep 1000
    pace origin format filter notices.length m
  | some t =>
    waitUntil origin t
    if t ≤ (← IO.monoNanosNow) - origin then
      pace origin format filter notices.length (Simulation.machine.moveTo m t)
    else pace origin format filter notices.length m

/-- Prints what is left of an outcome and returns its exit code. -/
def finish (filter : LogFilter) (o : Outcome) : IO UInt32 := do
  printLines o.format filter o.lines
  if let some r := o.report then IO.println r.toJson.pretty
  IO.eprint o.complaint
  return o.code.toUInt32

def runNow (s : Settings) (filter : LogFilter) : IO UInt32 := do
  let clock := Clock.running (← currentTime)
  match launch s { clock := clock, entropy := ← randomBits } with
  | .error o => finish filter { o with format := s.logFormat }
  | .ok m =>
    printLines s.logFormat filter (prelude s ++ [.starting s.config])
    let m ← pace (← IO.monoNanosNow) s.logFormat filter 0 m
    finish filter { conclude s [] m with format := s.logFormat }

/-- The whole program. -/
def program (words : List String) : IO UInt32 := do
  let lookup ← readVariables
  match settings words lookup with
  | .error .help => IO.print usage; return 0
  | .error .version => IO.print version; return 0
  | .error stop => finish [] (outcomeOf stop)
  | .ok s => runNow s (filterOf lookup)

end SensorFleet.Command

def main (words : List String) : IO UInt32 := SensorFleet.Command.program words
