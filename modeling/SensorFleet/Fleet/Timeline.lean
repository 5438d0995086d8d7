import SensorFleet.Fleet.Pipeline
/-!
Time lines: actions on a pipeline at given milliseconds, each of which finds the pipeline as time
has left it and is answered at once, before anyone reacts to it.
-/
namespace SensorFleet

inductive Action
  | look
  | offer (stage : Stage) (r : Reading)
  | send (tag : String) (r : Reading)
  | recv (tag : String)
  | abort (tag : String)
  | poll (stage : Stage)
  | drain (most : Option Nat)
  | close (stage : Stage)
  | cancel
  | closeBroker
  | turn (s : BrokerSwitch)
deriving DecidableEq, Repr

inductive Reply
  | nothing
  | accepted
  | refused (e : Refusal) (r : Reading)
  | looked (l : RecvLook Reading)
  | items (rs : List Reading)
  | closed (first : Bool)
  | failed (e : PublishError)

/-- What can be seen of a queue. -/
structure QueueView where
  length : Nat
  isClosed : Bool
  capacity : Nat
  highWater : Nat
  late : Nat
deriving DecidableEq, Repr

def QueueView.of (q : ReadingQueue) : QueueView :=
  ⟨q.length, q.isClosed, q.capacity, q.highWater, q.late⟩

/-- What is noted at an action. -/
structure Observed where
  millis : Nat
  done : List (String × Pipeline.TaskResult)
  reply : Reply
  primary : QueueView
  fanout : QueueView
  metrics : MetricsSnapshot

structure Timeline where
  pipeline : Pipeline
  /-- The tasks whose results were noted before. -/
  noted : List String := []

namespace Timeline

/-- The party that looks at the queues from outside. -/
def outside (m : Pipeline) : Party := .caller m.calls.size

/-- Takes readings until none is there, at most `most` of them. -/
def drain (s : Scene) (who : Party) : Nat → List Reading × Scene
  | 0 => ([], s)
  | most + 1 =>
    match s.poll .primary who with
    | (.item r, s) =>
      let (rs, s) := drain s who most
      (r :: rs, s)
    | (_, s) => ([], s)

def act (m : Pipeline) : Action → Reply × Pipeline
  | .look => (.nothing, m)
  | .offer stage r =>
    match m.scene.offer stage r with
    | (none, s) => (.accepted, { m with scene := s })
    | (some e, s) => (.refused e r, { m with scene := s })
  | .send tag r => (.nothing, { m with calls := m.calls.push { tag := tag, kind := .send r } })
  | .recv tag => (.nothing, { m with calls := m.calls.push { tag := tag, kind := .recv } })
  | .abort tag =>
    let stop (c : Call) : Call := if c.tag = tag then { c with abortRequested := true } else c
    (.nothing, { m with calls := m.calls.map stop })
  | .poll stage =>
    let (l, s) := m.scene.poll stage (outside m)
    (.looked l, { m with scene := s })
  | .drain most =>
    let (rs, s) := drain m.scene (outside m) (most.getD (m.scene.primary.length + 1))
    (.items rs, { m with scene := s })
  | .close stage =>
    let (first, s) := m.scene.close stage
    (.closed first, { m with scene := s })
  | .cancel => (.nothing, { m with scene := { m.scene with cancelled := true } })
  | .closeBroker =>
    let (e, b) := m.scene.broker.close
    let s := if b.isScripted then m.scene else m.scene.log .brokerClosing
    (e.elim .nothing .failed, { m with scene := { s with broker := b } })
  | .turn t => (.nothing, { m with scene := { m.scene with broker := m.scene.broker.turn t } })

/-- Lets time pass up to a millisecond, which is reached before anything happens at it. -/
def passTo (t : Timeline) (millis : Nat) : Timeline :=
  if Instant.ofMillis millis ≤ t.pipeline.scene.now then t
  else
    { t with
      pipeline := Pipeline.machine.runTo (fun _ => false) (Instant.ofMillis millis)
        Machine.patience t.pipeline }

/-- The results that were not noted before. -/
def collect (t : Timeline) : List (String × Pipeline.TaskResult) × Timeline :=
  let done := t.pipeline.tasks.filterMap fun (name, r) =>
    if name ∈ t.noted then none else r.map fun r => (name, r)
  (done, { t with noted := done.map Prod.fst ++ t.noted })

def observe (t : Timeline) (done : List (String × Pipeline.TaskResult)) (reply : Reply) :
    Observed :=
  let s := t.pipeline.scene
  ⟨Instant.millis s.now, done, reply, .of s.primary, .of s.fanout, s.metrics.snapshot⟩

/-- Passes to the millisecond of an action and does it. -/
def perform (t : Timeline) (millis : Nat) (a : Action) : Observed × Timeline :=
  let (done, t) := (t.passTo millis).collect
  let (reply, pipeline) := act t.pipeline a
  let t := { t with pipeline := pipeline }
  (t.observe done reply, t)

/-- Performs actions; one without a millisecond follows the one before by one. -/
def play (t : Timeline) (last : Nat) : List (Option Nat × Action) → List Observed × Nat × Timeline
  | [] => ([], last, t)
  | (at?, a) :: rest =>
    let millis := at?.getD (last + 1)
    let (o, t) := t.perform millis a
    let (os, last, t) := t.play millis rest
    (o :: os, last, t)

/-- The names of the tasks that have not ended. -/
def running (t : Timeline) : List String :=
  (t.pipeline.tasks.filter fun (_, r) => r.isNone).map Prod.fst

end Timeline
end SensorFleet
