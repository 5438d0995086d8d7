import SensorFleet.Config
import SensorFleet.Net.SocketAddress
/-!
Usage of the command. Words and variables set the values of a run: an option may be given once and
beats its variable, and a value is looked at only when the next option begins or the words end.
-/
namespace SensorFleet.Command

inductive LogFormat
  | json
  | pretty
deriving DecidableEq, Repr

structure Settings where
  config : Config := {}
  /-- The seed of the sources; without one it is random. -/
  seed : Option UInt64 := none
  logFormat : LogFormat := .json
  printsReport : Bool := false
deriving DecidableEq, Repr

/-- Why the words and variables do not lead to a run. -/
inductive Stop
  | help
  | version
  | unknown (word : String)
  | missingValue (name : String)
  | unreadable (name value : String)
  | notAChoice (name value : String)
  | repeated (name : String)
  | unneededValue (name : String)
deriving DecidableEq, Repr

def Stop.message : Stop → String
  | .help | .version => ""
  | .unknown w => "error: unexpected argument '" ++ w ++ "' found"
  | .missingValue n => "error: a value is required for '--" ++ n ++ "' but none was supplied"
  | .unreadable n v | .notAChoice n v => "error: invalid value '" ++ v ++ "' for '--" ++ n ++ "'"
  | .repeated n => "error: the argument '--" ++ n ++ "' cannot be used multiple times"
  | .unneededValue n => "error: unexpected value for '--" ++ n ++ "' found; no more were expected"

/-- How a text becomes a value: by reading it or by choosing among names. -/
inductive ValueReader
  | reads (f : String → Option (Settings → Settings))
  | chooses (f : String → Option (Settings → Settings))

structure OptionSpec where
  name : String
  /-- Whether the variable of the option is looked at. -/
  hasVariable : Bool := true
  /-- A flag takes no value and is true where it stands. -/
  isFlag : Bool := false
  reader : ValueReader
  explanation : String := ""

namespace OptionSpec

def variableName (o : OptionSpec) : String :=
  "SENSIM_" ++ String.ofList (o.name.toList.map fun c => if c = '-' then '_' else c.toUpper)

def set (o : OptionSpec) (value : String) (s : Settings) : Except Stop Settings :=
  match o.reader with
  | .reads f => match f value with
    | some g => .ok (g s)
    | none => .error (.unreadable o.name value)
  | .chooses f => match f value with
    | some g => .ok (g s)
    | none => .error (.notAChoice o.name value)

end OptionSpec

/-- A whole number of 64 bits; a plus sign and zeros may stand in front. -/
def readWhole (s : String) : Option Nat :=
  let ds := match s.toList with
    | '+' :: rest => rest
    | cs => cs
  let n := ds.foldl (fun n c => 10 * n + (c.toNat - '0'.toNat)) 0
  if ds.isEmpty || !ds.all Char.isDigit || UInt64.size ≤ n then none else some n

def readBool : String → Option Bool
  | "true" => some true
  | "false" => some false
  | _ => none

def LogFormat.ofName? : String → Option LogFormat
  | "json" => some .json
  | "pretty" => some .pretty
  | _ => none

def changing (f : Config → Config) (s : Settings) : Settings := { s with config := f s.config }

def wholeOption (name explanation : String) (f : Nat → Config → Config) : OptionSpec :=
  { name := name, explanation := explanation
    reader := .reads fun v => (readWhole v).map fun n => changing (f n) }

def textOption (name explanation : String) (f : String → Config → Config) : OptionSpec :=
  { name := name, explanation := explanation, reader := .reads fun v => some (changing (f v)) }

def addressOption (name explanation : String) (f : String → Config → Config) : OptionSpec :=
  { name := name, explanation := explanation
    reader := .reads fun v => (SocketAddress.ofText? v).map fun a => changing (f a.text) }

/-- The options in order, in which their variables are looked at. -/
def options : List OptionSpec := [
  wholeOption "producers" "Number of simulated sensors" fun n c => { c with producers := n },
  wholeOption "duration-secs" "Run length in seconds before automatic shutdown"
    fun n c => { c with duration := Duration.ofSeconds n },
  wholeOption "interval-ms" "Tick period of each sensor in milliseconds"
    fun n c => { c with interval := Duration.ofMillis n },
  wholeOption "queue-capacity" "Capacity of the shared reading queue"
    fun n c => { c with capacity := n },
  { name := "enable-broker-publish", isFlag := true
    explanation := "Forward every reading to the broker"
    reader := .chooses fun v => (readBool v).map fun b => changing fun c => { c with publishes := b } },
  textOption "broker-url" "" fun v c => { c with brokerUrl := v },
  textOption "subject-prefix" "" fun v c => { c with subjectRoot := v },
  wholeOption "publish-timeout-ms" "" fun n c => { c with publishTimeout := Duration.ofMillis n },
  wholeOption "publish-drain-timeout-ms"
    "How long the publisher keeps publishing after shutdown starts (0 = drop at once)"
    fun n c => { c with drainTimeout := Duration.ofMillis n },
  wholeOption "summary-interval-secs" "Cadence of aggregator/publisher summaries in seconds"
    fun n c => { c with summaryInterval := Duration.ofSeconds n },
  addressOption "metrics-addr" "" fun a c => { c with metricsAddress := a },
  addressOption "profiling-addr" "" fun a c => { c with profilingAddress := a },
  { name := "seed"
    explanation := "Seed for reproducible sensor values (entropy when absent)"
    reader := .reads fun v => (readWhole v).map fun n s => { s with seed := some n.toUInt64 } },
  { name := "log-format"
    reader := .chooses fun v => (LogFormat.ofName? v).map fun f s => { s with logFormat := f } },
  { name := "print-report", hasVariable := false, isFlag := true
    explanation := "Print the full run report as JSON on stdout when done"
    reader := .chooses fun v => (readBool v).map fun b s => { s with printsReport := b } }]

/-- Words that end the reading wherever they stand. -/
def endings : List (String × Stop) := [("help", .help), ("version", .version)]

/-- The option whose value was not looked at so far. -/
inductive Pending
  | nothing
  | valueless (o : OptionSpec)
  | valued (o : OptionSpec) (value : String)

/-- Settings under construction. -/
structure Draft where
  settings : Settings := {}
  /-- The names of the options that were given. -/
  given : List String := []
  pending : Pending := .nothing

namespace Draft

/-- Sets an option that was not given before. -/
def take (d : Draft) (o : OptionSpec) (value : String) : Except Stop Draft := do
  if o.name ∈ d.given then throw (.repeated o.name)
  let settings ← o.set value d.settings
  return { settings := settings, given := o.name :: d.given, pending := .nothing }

/-- Looks at the value of the pending option. -/
def settle (d : Draft) : Except Stop Draft :=
  match d.pending with
  | .nothing => .ok d
  | .valueless o => .error (.missingValue o.name)
  | .valued o v => d.take o v

/-- A word that starts with two dashes: a name, and perhaps a value after an equals sign. -/
def longWord (d : Draft) (word : String) (name : String) (value : Option String) :
    Except Stop Draft :=
  match endings.lookup name, options.find? fun o => o.name = name with
  | some stop, _ =>
    match value with
    | some _ => .error (.unneededValue name)
    | none => do
      let _ ← d.settle
      throw stop
  | none, none => .error (.unknown word)
  | none, some o =>
    match o.isFlag, value with
    | true, some _ => .error (.unneededValue o.name)
    | true, none => do (← d.settle).take o "true"
    | false, some v => do (← d.settle).take o v
    | false, none => do return { ← d.settle with pending := .valueless o }

/-- A word that starts with one dash, of which the first letter decides. -/
def shortWord (d : Draft) (word : String) (letter : Char) : Except Stop Draft :=
  let stop := match letter with
    | 'h' => some Stop.help
    | 'V' => some Stop.version
    | _ => none
  match stop with
  | some stop => do
    let _ ← d.settle
    throw stop
  | none => .error (.unknown word)

/-- A word without dashes is the value of the option before it. -/
def plainWord (d : Draft) (word : String) : Except Stop Draft :=
  match d.pending with
  | .valueless o => .ok { d with pending := .valued o word }
  | _ => .error (.unknown word)

def next (d : Draft) (word : String) : Except Stop Draft :=
  match word.toList with
  | '-' :: '-' :: cs =>
    let name := cs.takeWhile (· ≠ '=')
    let value := match cs.drop name.length with
      | _ :: v => some (String.ofList v)
      | [] => none
    d.longWord word (String.ofList name) value
  | '-' :: c :: _ => d.shortWord word c
  | _ => d.plainWord word

/-- Reads all words. Nothing may follow two dashes that stand alone. -/
def words (d : Draft) : List String → Except Stop Draft
  | [] => d.settle
  | "--" :: [] => d.settle
  | "--" :: word :: _ => .error (.unknown word)
  | word :: rest => do (← d.next word).words rest

/-- Looks at the variables of the options that were not given. -/
def withVariables (d : Draft) (lookup : String → Option String) : Except Stop Draft :=
  options.foldlM (fun d o =>
    if o.name ∈ d.given || !o.hasVariable then .ok d
    else match lookup o.variableName with
      | some v => d.take o v
      | none => .ok d) d

end Draft

/-- The settings that words and variables give. -/
def settings (words : List String) (lookup : String → Option String) : Except Stop Settings := do
  let d ← Draft.words {} words
  return (← d.withVariables lookup).settings

def usage : String :=
  let line (o : OptionSpec) : String :=
    "      --" ++ o.name ++ (if o.isFlag then "" else " <VALUE>") ++
      (if o.explanation = "" then "" else "\n          " ++ o.explanation) ++
      (if o.hasVariable then "\n          [env: " ++ o.variableName ++ "=]" else "") ++ "\n"
  "Concurrent sensor simulation harness\n\nUsage: sensim [OPTIONS]\n\nOptions:\n" ++
    String.join (options.map line) ++ "  -h, --help\n  -V, --version\n"

def version : String := "sensim 0.1.0\n"

end SensorFleet.Command
