import SensorFleet.Fleet.Machine
import SensorFleet.Fleet.Supervisor
import SensorFleet.Report
/-!
Whole simulations. A coordinator starts everything, waits for a reason to shut down, and then takes
the parts down in order: it waits for every supervisor, closes the primary queue, waits for the
aggregator, closes the fan-out, waits for the publisher and closes the broker. A watcher closes the
fan-out as soon as the publisher ends for whatever reason.
-/
namespace SensorFleet

inductive ShutdownCause
  | interrupt
  | duration
  | cancellation
deriving DecidableEq, Repr

def ShutdownCause.notice : ShutdownCause → Notice
  | .interrupt => .interrupted
  | .duration => .durationElapsed
  | .cancellation => .cancellationRequested

inductive CoordinatorPhase
  /-- Waits for the end of the configured duration, an interrupt or the cancellation. -/
  | running (duration interrupt : Option Nat)
  /-- Waits for supervisors, of which `left` have not been joined. -/
  | joining (left : Nat)
  | awaitingAggregator
  | awaitingPublisher
  | ended (result : Except SimError SimReport)

structure Coordinator where
  runId : RunId
  startedAt : WallTime
  phase : CoordinatorPhase
  slots : List SlotReport := []
  /-- The first error met. -/
  failure : Option SimError := none
  aggregated : AggregatorReport := {}
  published : Option PublisherReport := none
  endedAt : Nat := 0

structure Simulation where
  scene : Scene
  supervisors : Array Supervisor
  aggregator : Aggregator
  publisher : Option Publisher
  /-- How the publisher ended, once the watcher has seen it. -/
  watched : Option (Ending PublisherReport) := none
  coordinator : Coordinator

inductive SimulationEvent
  | shutdown (cause : ShutdownCause)
  | coordinator
  | publisher
  | watcher
  | aggregator
  | supervisor (index : Nat)
  | run (index : Nat)
  | join (index : Nat)
deriving DecidableEq, Repr

/-- What a simulation is given, apart from its configuration. -/
structure Equipment where
  clock : Clock
  sources : SourceFactory
  broker : Option Broker := none
  counts : Bool := true
  /-- The random part of the name of the run. -/
  random : Nat := 0
  cancelled : Bool := false
  /-- The instant of the interrupt. -/
  interrupt : Option Nat := none

namespace Simulation

/-- Checks a configuration and whether a broker is there if one is needed. -/
def check (c : Config) (hasBroker : Bool) : Except BuildError Unit :=
  match c.validate with
  | .error e => .error (.invalidConfig e)
  | .ok () => if c.publishes && !hasBroker then .error .missingBroker else .ok ()

def aggregatorOf (c : Config) : Aggregator :=
  { summaryInterval := c.summaryInterval, forwards := c.publishes }

def publisherOf (c : Config) : Option Publisher :=
  if c.publishes then
    some { stage := .fanout, subjectRoot := c.subjectRoot, publishTimeout := c.publishTimeout
           statsInterval := c.summaryInterval, drainTimeout := some c.drainTimeout }
  else none

def supervisorsOf (c : Config) : Array Supervisor :=
  ((List.range c.producers).map fun i => Supervisor.new (UInt32.ofNat (i + 1)) c.interval).toArray

def sceneOf (p : Equipment) (queue : ReadingQueue) : Scene :=
  { cancelled := p.cancelled, primary := queue, fanout := queue, clock := p.clock
    sources := p.sources, broker := p.broker.getD { kind := .recording }, counts := p.counts }

/-- The simulation when everything was started and the coordinator waits for a reason to stop. -/
def start (c : Config) (p : Equipment) : Except Crash Simulation := do
  let queue ← ReadingQueue.ofCapacity c.capacity
  let (named, scene) := (sceneOf p queue).readClock
  let (startedAt, scene) := scene.readClock
  return {
    scene := scene.log (.simulationStarted c.producers (Duration.millis c.interval % UInt64.size)
      c.capacity (Duration.seconds c.duration) c.publishes)
    supervisors := supervisorsOf c
    aggregator := aggregatorOf c
    publisher := publisherOf c
    coordinator := {
      runId := RunId.generate named p.random
      startedAt := startedAt
      phase := .running (Instant.after? 0 c.duration) p.interrupt } }

def result? (m : Simulation) : Option (Except SimError SimReport) :=
  match m.coordinator.phase with
  | .ended r => some r
  | _ => none

def hasEnded (m : Simulation) : Bool := m.result?.isSome

def log (m : Simulation) (n : Notice) : Simulation := { m with scene := m.scene.log n }

def enter (m : Simulation) (phase : CoordinatorPhase) : Simulation :=
  { m with coordinator := { m.coordinator with phase := phase } }

/-- Keeps an error if it is the first one. -/
def fail (m : Simulation) (e : SimError) : Simulation :=
  { m with coordinator := { m.coordinator with failure := m.coordinator.failure.or (some e) } }

def failTask (m : Simulation) (c : Crash) : Simulation := m.fail (.other (Notice.taskFailure c))

def isCause (m : Simulation) : ShutdownCause → Bool
  | .interrupt =>
    match m.coordinator.phase with
    | .running _ alarm => Instant.hasRung alarm m.scene.now
    | _ => false
  | .duration =>
    match m.coordinator.phase with
    | .running alarm _ => Instant.hasRung alarm m.scene.now
    | _ => false
  | .cancellation =>
    match m.coordinator.phase with
    | .running _ _ => m.scene.cancelled
    | _ => false

/-- Whether the coordinator waits for this supervisor and it has ended. -/
def canJoin (m : Simulation) (i : Nat) : Bool :=
  match m.coordinator.phase with
  | .joining _ => (m.supervisors[i]?).any fun t => t.hasEnded && !t.joined
  | _ => false

def coordinatorReady (m : Simulation) : Bool :=
  match m.coordinator.phase with
  | .joining left => left = 0
  | .awaitingAggregator => m.aggregator.ending?.isSome
  | .awaitingPublisher => m.watched.isSome
  | _ => false

def isReady (m : Simulation) : SimulationEvent → Bool
  | .shutdown cause => m.isCause cause
  | .coordinator => m.coordinatorReady
  | .publisher => m.publisher.any fun p => p.isReady m.scene
  | .watcher => m.watched.isNone && m.publisher.any fun p => p.ending?.isSome
  | .aggregator => m.aggregator.isReady m.scene
  | .supervisor i => (m.supervisors[i]?).any fun t => t.isReady
  | .run i => (m.supervisors[i]?).any fun t => t.isRunReady (.slot i) m.scene
  | .join i => m.canJoin i

def shutdown (m : Simulation) (cause : ShutdownCause) : Simulation :=
  let scene := { m.scene.log cause.notice with cancelled := true }
  { m with scene := scene }.enter (.joining m.supervisors.size)

/-- Takes the result of a supervisor that has ended. -/
def join (m : Simulation) (i : Nat) (t : Supervisor) : Simulation :=
  let m := { m with supervisors := m.supervisors.setIfInBounds i { t with joined := true } }
  let m := match m.coordinator.phase with
    | .joining left => m.enter (.joining (left - 1))
    | _ => m
  match t.ending? with
  | some (.returned (.ok report)) =>
    { m with coordinator := { m.coordinator with slots := report :: m.coordinator.slots } }
  | some (.returned (.error e)) => (m.log (.barrierFailed e)).fail (.slot e)
  | some (.crashed c) => (m.log (.barrierTaskFailed c)).failTask c
  | none => m

def endWith (m : Simulation) (r : Except SimError SimReport) : Simulation :=
  { m with coordinator := { m.coordinator with phase := .ended r, endedAt := m.scene.now } }

/-- Makes the report, unless something failed before. -/
def conclude (m : Simulation) : Simulation :=
  match m.coordinator.failure with
  | some e => m.endWith (.error e)
  | none =>
    let c := m.coordinator
    let (finishedAt, scene) := m.scene.readClock
    let report := (SimReport.ofParts c.runId c.startedAt finishedAt c.slots.reverse c.aggregated
      c.published).withQueue scene.primary
    let scene := scene.log (.queueStats report.queueHighWater)
    let scene := if 0 < report.lateSends then scene.log (.lateSends report.lateSends) else scene
    let scene := scene.log (.endedGracefully report.sent report.received report.restarts
      report.dropped)
    { m with scene := scene }.endWith (.ok report)

/-- Closes the primary queue when every supervisor was joined. -/
def closeQueue (m : Simulation) : Simulation :=
  let (first, scene) := m.scene.close .primary
  let scene := if first then scene.log (.queueClosed scene.primary.length) else scene
  { m with scene := scene }.enter .awaitingAggregator

/-- Takes the result of the aggregator and makes sure that the fan-out is closed. -/
def joinAggregator (m : Simulation) (e : Ending AggregatorReport) : Simulation :=
  let m := match e with
    | .returned r => { m with coordinator := { m.coordinator with aggregated := r } }
    | .crashed c => (m.log (.aggregatorTaskFailed c)).failTask c
  if m.publisher.isSome then
    { m with scene := (m.scene.close .fanout).2 }.enter .awaitingPublisher
  else m.conclude

def closeBroker (m : Simulation) : Simulation :=
  let (error, broker) := m.scene.broker.close
  let scene := if broker.isScripted then m.scene else m.scene.log .brokerClosing
  let scene := { scene with broker := broker }.record (.brokerClosed error)
  match error with
  | some e => { m with scene := scene.log (.brokerCloseFailed e) }
  | none => { m with scene := scene }

/-- Takes the result of the publisher, if it was not lost, and closes the broker. -/
def joinPublisher (m : Simulation) (e : Ending PublisherReport) : Simulation :=
  let m := match e with
    | .returned r => { m with coordinator := { m.coordinator with published := some r } }
    | .crashed c => m.log (.publisherTaskFailed c)
  m.closeBroker.conclude

def stepCoordinator (m : Simulation) : Simulation :=
  match m.coordinator.phase with
  | .joining _ => m.closeQueue
  | .awaitingAggregator => m.aggregator.ending?.elim m m.joinAggregator
  | .awaitingPublisher => m.watched.elim m m.joinPublisher
  | _ => m

/-- The watcher sees the end of the publisher and closes the fan-out. -/
def stepWatcher (m : Simulation) (e : Ending PublisherReport) : Simulation :=
  let (wasOpen, scene) := m.scene.close .fanout
  { m with
    watched := some e
    scene := if wasOpen then scene.log .publisherExitedEarly else scene }

def step (m : Simulation) : SimulationEvent → Simulation
  | .shutdown cause => m.shutdown cause
  | .coordinator => m.stepCoordinator
  | .publisher =>
    match m.publisher with
    | some p =>
      let (p, scene) := p.step m.scene
      { m with publisher := some p, scene := scene }
    | none => m
  | .watcher =>
    match m.publisher.bind Publisher.ending? with
    | some e => m.stepWatcher e
    | none => m
  | .aggregator =>
    let (a, scene) := m.aggregator.step m.scene
    { m with aggregator := a, scene := scene }
  | .supervisor i =>
    match m.supervisors[i]? with
    | some t =>
      let (t, scene) := t.step m.scene
      { m with supervisors := m.supervisors.setIfInBounds i t, scene := scene }
    | none => m
  | .run i =>
    match m.supervisors[i]? with
    | some t =>
      let (t, scene) := t.stepRun (.slot i) m.scene
      { m with supervisors := m.supervisors.setIfInBounds i t, scene := scene }
    | none => m
  | .join i =>
    match m.supervisors[i]? with
    | some t => m.join i t
    | none => m

/-- The events in the order of the scheduler: a reason to shut down is seen at once, even before
anything has run, and the consumers come before the producers. -/
def events (m : Simulation) : List SimulationEvent :=
  [.shutdown .interrupt, .shutdown .duration, .shutdown .cancellation, .publisher, .watcher,
    .aggregator] ++
    (List.range m.supervisors.size).flatMap (fun i => [.supervisor i, .run i, .join i]) ++
    [.coordinator]

def alarms (m : Simulation) : List Nat :=
  let own := match m.coordinator.phase with
    | .running duration interrupt => duration.toList ++ interrupt.toList
    | _ => []
  own ++ m.aggregator.alarms ++ m.publisher.elim [] Publisher.alarms ++
    m.supervisors.toList.flatMap Supervisor.alarms

def machine : Machine Simulation SimulationEvent :=
  { events := events
    isReady := isReady
    step := step
    now := fun m => m.scene.now
    alarms := alarms
    moveTo := fun m t => { m with scene := { m.scene with now := t } } }

/-- The named stretches of a run, within which notices are given, each with its fields. -/
def spans (m : Simulation) : List (String × List (String × Json)) :=
  let part (name : String) : String × List (String × Json) := (name, [("component", .string name)])
  [("simulation", []), part "aggregator"] ++
    (if m.publisher.isSome then [part "publisher"] else []) ++
    m.supervisors.toList.map fun t =>
      ("supervisor", [("component", .string "supervisor"), ("producer_id", .nat t.slot.id.toNat)])

/-- Something done to a simulation from outside. -/
inductive Intervention
  | cancel
  | turn (s : BrokerSwitch)
deriving DecidableEq, Repr

def apply (m : Simulation) : Intervention → Simulation
  | .cancel => { m with scene := { m.scene with cancelled := true } }
  | .turn s => { m with scene := { m.scene with broker := m.scene.broker.turn s } }

/-- Runs up to an instant, at which nothing happens yet. -/
def passTo (m : Simulation) (instant : Nat) : Simulation :=
  if instant ≤ m.scene.now then m else machine.runTo hasEnded instant Machine.patience m

/-- Runs up to and including an instant. -/
def finish (m : Simulation) (limit : Nat) : Simulation :=
  machine.settle Machine.patience Machine.patience (m.passTo limit)

/-- Runs a simulation with interventions at given instants, in order, up to and including a last
instant. -/
def play (m : Simulation) (limit : Nat) : List (Nat × Intervention) → Simulation
  | [] => m.finish limit
  | (t, i) :: rest =>
    if limit < t then m.finish limit
    else
      let m := m.passTo t
      if m.hasEnded then m else (m.apply i).play limit rest

end Simulation
end SensorFleet
