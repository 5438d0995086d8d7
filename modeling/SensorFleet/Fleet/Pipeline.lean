import SensorFleet.Fleet.Aggregator
import SensorFleet.Fleet.Call
import SensorFleet.Fleet.Machine
import SensorFleet.Fleet.Publisher
import SensorFleet.Fleet.Supervisor
/-!
Parts of a fleet around one queue, without a coordinator: any of producers without supervision,
supervised slots, an aggregator, a publisher and single calls.
-/
namespace SensorFleet

structure Pipeline where
  scene : Scene
  producers : Array Station := #[]
  supervisors : Array Supervisor := #[]
  aggregator : Option Aggregator := none
  publisher : Option Publisher := none
  calls : Array Call := #[]

inductive PipelineEvent
  | producer (index : Nat)
  | supervisor (index : Nat)
  | run (index : Nat)
  | aggregator
  | publisher
  | call (index : Nat)
deriving DecidableEq, Repr

namespace Pipeline

def isReady (m : Pipeline) : PipelineEvent → Bool
  | .producer i => (m.producers[i]?).any fun t => t.isReady (.producer i) m.scene
  | .supervisor i => (m.supervisors[i]?).any fun t => t.isReady
  | .run i => (m.supervisors[i]?).any fun t => t.isRunReady (.slot i) m.scene
  | .aggregator => m.aggregator.any fun a => a.isReady m.scene
  | .publisher => m.publisher.any fun p => p.isReady m.scene
  | .call i => (m.calls[i]?).any fun c => c.isReady (.caller i) m.scene

def step (m : Pipeline) : PipelineEvent → Pipeline
  | .producer i =>
    match m.producers[i]? with
    | some t =>
      let (t, scene) := t.step (.producer i) m.scene
      { m with producers := m.producers.setIfInBounds i t, scene := scene }
    | none => m
  | .supervisor i =>
    match m.supervisors[i]? with
    | some t =>
      let (t, scene) := t.step m.scene
      { m with supervisors := m.supervisors.setIfInBounds i t, scene := scene }
    | none => m
  | .run i =>
    match m.supervisors[i]? with
    | some t =>
      let (t, scene) := t.stepRun (.slot i) m.scene
      { m with supervisors := m.supervisors.setIfInBounds i t, scene := scene }
    | none => m
  | .aggregator =>
    match m.aggregator with
    | some a =>
      let (a, scene) := a.step m.scene
      { m with aggregator := some a, scene := scene }
    | none => m
  | .publisher =>
    match m.publisher with
    | some p =>
      let (p, scene) := p.step m.scene
      { m with publisher := some p, scene := scene }
    | none => m
  | .call i =>
    match m.calls[i]? with
    | some c =>
      let (c, scene) := c.step (.caller i) m.scene
      { m with calls := m.calls.setIfInBounds i c, scene := scene }
    | none => m

def events (m : Pipeline) : List PipelineEvent :=
  (List.range m.producers.size).map .producer ++
    (List.range m.supervisors.size).flatMap (fun i => [.supervisor i, .run i]) ++
    [.aggregator, .publisher] ++ (List.range m.calls.size).map .call

def alarms (m : Pipeline) : List Nat :=
  m.producers.toList.flatMap Station.alarms ++ m.supervisors.toList.flatMap Supervisor.alarms ++
    m.aggregator.elim [] Aggregator.alarms ++ m.publisher.elim [] Publisher.alarms

def machine : Machine Pipeline PipelineEvent :=
  { events := events
    isReady := isReady
    step := step
    now := fun m => m.scene.now
    alarms := alarms
    moveTo := fun m t => { m with scene := { m.scene with now := t } } }

/-- Adds a producer without supervision; its source is made at once. -/
def addProducer (m : Pipeline) (id : ProducerId) (interval : Nat) : Except Crash Pipeline :=
  match m.scene.makeSource id with
  | (.crash c, _) => .error c
  | (.source source, scene) =>
    let run : Run := { id := id, interval := interval, source := source }
    .ok { m with producers := m.producers.push ⟨run, 0⟩, scene := scene }

/-- How a task ended, and when. -/
inductive TaskResult
  | call (r : CallResult)
  | crashed (c : Crash)
  | producer (r : RunResult) (instant : Nat)
  | slot (r : Except SlotError SlotReport) (instant : Nat)
  | aggregator (r : AggregatorReport) (instant : Nat)
  | publisher (r : PublisherReport) (instant : Nat)

def TaskResult.ofEnding {α : Type} (make : α → TaskResult) : Ending α → TaskResult
  | .returned v => make v
  | .crashed c => .crashed c

/-- Every task by name, with its result if it has ended. -/
def tasks (m : Pipeline) : List (String × Option TaskResult) :=
  m.calls.toList.map (fun c => (c.tag, c.result?.map .call)) ++
    m.producers.toList.map (fun t => ("producer " ++ t.run.id.text,
      t.ending?.map (TaskResult.ofEnding (.producer · t.run.endedAt)))) ++
    m.supervisors.toList.map (fun t => ("slot " ++ t.slot.id.text,
      t.ending?.map (TaskResult.ofEnding (.slot · t.endedAt)))) ++
    m.aggregator.elim [] (fun a => [("aggregator",
      a.ending?.map (TaskResult.ofEnding (.aggregator · a.endedAt)))]) ++
    m.publisher.elim [] (fun p => [("publisher",
      p.ending?.map (TaskResult.ofEnding (.publisher · p.endedAt)))])

end Pipeline
end SensorFleet
