import SensorFleet.Fleet.Scene
/-!
The publisher takes readings from a queue and publishes them one at a time. After cancellation it
goes on until its deadline, which for a drain timeout of zero is the cancellation itself; then it
gives up the publish at hand and drops what is left. Among events of one instant the answer of the
broker comes first, then the timeout, then the deadline.
-/
namespace SensorFleet

structure PublisherReport where
  success : Nat := 0
  failures : Nat := 0
  dropped : Nat := 0
deriving DecidableEq, Repr, Inhabited

namespace PublisherReport

def attempted (r : PublisherReport) : Nat := r.success + r.failures

def toJson (r : PublisherReport) : Json :=
  .object [("success", .nat r.success), ("failures", .nat r.failures), ("dropped", .nat r.dropped)]

end PublisherReport

/-- The deadline, which is set when the cancellation is seen, with the instant at which it passes. -/
inductive Deadline
  | unset
  | set (passes : Option Nat)
deriving DecidableEq, Repr

namespace Instant

/-- When a grace is over that begins now: a grace of zero at once, without an alarm, and any other
when its alarm rings, if the alarm can be set. -/
def graceEnd? (now : Nat) : Nat → Option Nat
  | 0 => some now
  | grace => (after? now grace).map ring

theorem graceEnd?_cases {now grace D : Nat} (h : graceEnd? now grace = some D) :
    grace = 0 ∧ D = now ∨ grace ≠ 0 ∧ D = ring (now + grace) := by
  cases grace with
  | zero => exact .inl ⟨rfl, (Option.some.inj h).symm⟩
  | succ n =>
    obtain ⟨a, fits, rfl⟩ := Option.map_eq_some_iff.mp h
    obtain ⟨_, rfl⟩ := after?_eq_some.mp fits
    exact .inr ⟨n.succ_ne_zero, rfl⟩

theorem limit_le_of_graceEnd? {now grace : Nat} (h : graceEnd? now grace = none) :
    limit ≤ now + grace := by
  cases grace with
  | zero => cases h
  | succ n =>
    refine Nat.le_of_not_lt fun fits => ?_
    have ends : graceEnd? now (n + 1) = some (ring (now + (n + 1))) :=
      congrArg (Option.map ring) (if_pos fits)
    cases h.symm.trans ends

end Instant

inductive PublisherPhase
  | created
  | waiting (ticker : Ticker) (parked : Bool)
  | publishing (ticker : Ticker) (reading : Reading) (pending : PendingPublish) (started : Nat)
      (timeout : Option Nat)
  | ended (e : Ending PublisherReport)
deriving DecidableEq, Repr

structure Publisher where
  stage : Stage
  subjectRoot : String
  publishTimeout : Nat
  statsInterval : Nat
  /-- How long publishing goes on after cancellation, if it is limited. -/
  drainTimeout : Option Nat := none
  phase : PublisherPhase := .created
  deadline : Deadline := .unset
  report : PublisherReport := {}
  draining : Bool := false
  abandoned : Bool := false
  endedAt : Nat := 0
deriving DecidableEq, Repr

namespace Publisher

def ending? (p : Publisher) : Option (Ending PublisherReport) :=
  match p.phase with
  | .ended e => some e
  | _ => none

/-- Whether the deadline is to be set now. -/
def seesCancellation (p : Publisher) (s : Scene) : Bool :=
  s.cancelled && !p.abandoned && p.deadline = .unset

def setDeadline (p : Publisher) (s : Scene) : Publisher :=
  { p with deadline := .set (p.drainTimeout.bind (Instant.graceEnd? s.now)) }

/-- The instant at which the deadline passes, as long as it is waited for. -/
def deadlineInstant? (p : Publisher) : Option Nat :=
  match p.deadline with
  | .set passes => if p.abandoned then none else passes
  | .unset => none

def deadlinePassed (p : Publisher) (s : Scene) : Bool := p.deadlineInstant?.any (· ≤ s.now)

theorem going_of_deadlinePassed {p : Publisher} {s : Scene} (h : p.deadlinePassed s = true) :
    p.abandoned = false := by
  unfold deadlinePassed deadlineInstant? at h
  split at h
  · split at h
    · cases h
    next going => exact Bool.eq_false_iff.mpr going
  · cases h

def isReady (p : Publisher) (s : Scene) : Bool :=
  match p.phase with
  | .created => true
  | .waiting ticker parked =>
    (s.cancelled && !p.draining) || p.seesCancellation s || p.deadlinePassed s ||
      ticker.isDue s.now || !parked || (s.queue p.stage).isReaderWoken .publisher
  | .publishing _ _ pending _ timeout =>
    Instant.hasRung pending.alarm s.now || Instant.hasRung timeout s.now ||
      p.seesCancellation s || p.deadlinePassed s
  | .ended _ => false

def alarms (p : Publisher) : List Nat :=
  match p.phase with
  | .waiting ticker _ => ticker.next :: p.deadlineInstant?.toList
  | .publishing _ _ pending _ timeout =>
    pending.alarm.toList ++ timeout.toList ++ p.deadlineInstant?.toList
  | _ => []

def start (p : Publisher) (s : Scene) : Publisher × Scene :=
  match Ticker.start? s.now p.statsInterval with
  | .error e => ({ p with phase := .ended (.crashed (.text e.message)), endedAt := s.now }, s)
  | .ok ticker =>
    ({ p with phase := .waiting ticker false },
      (s.log (.publisherStarting p.subjectRoot)).count (.brokerConnection s.broker.isConnected))

def finish (p : Publisher) (s : Scene) : Publisher × Scene :=
  let r := p.report
  let s := s.count (.brokerConnection s.broker.isConnected)
  ({ p with phase := .ended (.returned r), endedAt := s.now },
    s.log (.publisherStopping r.attempted r.success r.failures r.dropped))

/-- Counts what became of a reading. -/
def settle (p : Publisher) (s : Scene) (ticker : Ticker) (r : Reading) (outcome : PublishOutcome) :
    Publisher × Scene :=
  let p := { p with phase := .waiting ticker false }
  let s := s.record (.publishOver r outcome)
  match outcome with
  | .dropped =>
    ({ p with report := { p.report with dropped := p.report.dropped + 1 } },
      s.count (.publishFailed r.producer "dropped"))
  | .published =>
    ({ p with report := { p.report with success := p.report.success + 1 } },
      s.count (.publishSucceeded r.producer))
  | .failed e =>
    ({ p with report := { p.report with failures := p.report.failures + 1 } },
      (s.count (.publishFailed r.producer e.reason)).log
        (if e = .notConnected then .publishSkipped r.producer else .publishFailed r.producer e))

/-- Counts the answer to a publish, with the time it took; a crash ends the publisher. -/
def conclude (p : Publisher) (s : Scene) (ticker : Ticker) (r : Reading) (started : Nat) :
    Answer → Publisher × Scene
  | .crashed c => ({ p with phase := .ended (.crashed c), endedAt := s.now }, s)
  | .accepted =>
    p.settle (s.count (.publishLatency r.producer (s.now - started))) ticker r .published
  | .failed e =>
    p.settle (s.count (.publishLatency r.producer (s.now - started))) ticker r (.failed e)

/-- Starts the publish of a reading that was just taken. -/
def publish (p : Publisher) (s : Scene) (ticker : Ticker) (r : Reading) : Publisher × Scene :=
  if p.abandoned then p.settle s ticker r .dropped
  else if !s.broker.isConnected then p.settle s ticker r (.failed .notConnected)
  else
    let s := s.record (.publishBegun r)
    match s.broker.start s.now ⟨r.subject p.subjectRoot, r.payload⟩ with
    | (.done a, b) => p.conclude { s with broker := b } ticker r s.now a
    | (.waiting pending, b) =>
      let timeout := Instant.after? s.now p.publishTimeout
      ({ p with phase := .publishing ticker r pending s.now timeout }, { s with broker := b })

def stepWaiting (p : Publisher) (s : Scene) (ticker : Ticker) (parked : Bool) :
    Publisher × Scene :=
  let leave := s.abandonRecv p.stage .publisher parked
  let idle := { p with phase := .waiting ticker false }
  if s.cancelled && !p.draining then
    ({ idle with draining := true }, leave.log (.drainingFanout (leave.queue p.stage).length))
  else if p.seesCancellation s then (p.setDeadline s, s)
  else if p.deadlinePassed s then
    ({ idle with abandoned := true }, leave.log (.deadlinePassed (leave.queue p.stage).length))
  else if ticker.isDue s.now then
    let connected := s.broker.isConnected
    let r := p.report
    ({ p with phase := .waiting (ticker.advance s.now) false },
      (leave.count (.brokerConnection connected)).log
        (.publisherStats r.success r.failures r.dropped connected))
  else
    match s.recv p.stage .publisher parked with
    | (.item r, s) => p.publish s ticker r
    | (.ended, s) => p.finish s
    | (.waits, s) => ({ p with phase := .waiting ticker true }, s)

def stepPublishing (p : Publisher) (s : Scene) (ticker : Ticker) (r : Reading)
    (pending : PendingPublish) (started : Nat) (timeout : Option Nat) : Publisher × Scene :=
  if Instant.hasRung pending.alarm s.now then
    let (a, b) := s.broker.finish pending.remainder
    p.conclude { s with broker := b } ticker r started a
  else if Instant.hasRung timeout s.now then
    p.conclude s ticker r started (.failed (.timeout p.publishTimeout))
  else if p.seesCancellation s then (p.setDeadline s, s)
  else if p.deadlinePassed s then
    { p with abandoned := true }.settle (s.log (.deadlinePassedMidPublish r.producer)) ticker r
      .dropped
  else (p, s)

def step (p : Publisher) (s : Scene) : Publisher × Scene :=
  match p.phase with
  | .created => p.start s
  | .waiting ticker parked => p.stepWaiting s ticker parked
  | .publishing ticker r pending started timeout =>
    p.stepPublishing s ticker r pending started timeout
  | .ended _ => (p, s)

end Publisher
end SensorFleet
