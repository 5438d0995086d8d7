import SensorFleet.Proofs.Outlet.Account

/-!
Executions of a publisher alone. Whoever is outside fills the fan-out and closes it, cancels, and
turns the switches of the broker, at any time and in any order. Time passes while the publisher
cannot go on, up to the next of its alarms. Along the way it is noted since when the publisher is
cancelled: since the cancellation, or since its start if it was cancelled before.
-/
namespace SensorFleet

structure Outlet where
  publisher : Publisher
  scene : Scene
  /-- Since when it is cancelled, if it is. -/
  since : Option Nat

namespace Outlet

inductive Cue
  | publisher
  | offer (r : Reading)
  /-- Somebody looks whether a reading can enter, perhaps again. -/
  | send (who : Party) (parked : Bool) (r : Reading)
  | abandonSend (who : Party)
  | close
  | cancel
  | turn (b : BrokerSwitch)
  | time (t : Nat)
deriving DecidableEq, Repr

/-- Whether time may pass up to an instant. -/
def mayPassTo (o : Outlet) (t : Nat) : Bool :=
  !o.publisher.isReady o.scene && o.scene.now ≤ t && t < Instant.limit &&
    o.publisher.alarms.all fun a => Instant.isDue a o.scene.now || t ≤ Instant.ring a

def enter (o : Outlet) (s : Scene) : Outlet := { o with scene := s }

def next? (o : Outlet) : Cue → Option Outlet
  | .publisher =>
    if o.publisher.isReady o.scene then
      let (p, s) := o.publisher.step o.scene
      some { o with publisher := p, scene := s }
    else none
  | .offer r => some (o.enter (o.scene.offer .fanout r).2)
  | .send who parked r =>
    some (o.enter (if parked then o.scene.resend .fanout who r else o.scene.send .fanout who r).2)
  | .abandonSend who => some (o.enter (o.scene.abandonSend .fanout who))
  | .close => some (o.enter (o.scene.close .fanout).2)
  | .cancel =>
    some { o with
      scene := { o.scene with cancelled := true }
      since := o.since.or (some o.scene.now) }
  | .turn b => some (o.enter { o.scene with broker := o.scene.broker.turn b })
  | .time t => if o.mayPassTo t then some (o.enter { o.scene with now := t }) else none

structure Fresh (o : Outlet) : Prop where
  stage : o.publisher.stage = .fanout
  created : o.publisher.phase = .created
  deadline : o.publisher.deadline = .unset
  report : o.publisher.report = {}
  going : o.publisher.abandoned = false
  early : o.scene.now < Instant.limit
  since : o.since = if o.scene.cancelled then some o.scene.now else none
  queues : ∀ stage, (o.scene.queue stage).buffer = []
  calm : o.scene.broker.kind.Calm
  metrics : o.scene.metrics.table = ∅
  journal : o.scene.journal = []

inductive Reachable : Outlet → Prop
  | start {o : Outlet} (fresh : o.Fresh) : Reachable o
  | next {o o' : Outlet} (prior : Reachable o) (cue : Cue) (step : o.next? cue = some o') :
      Reachable o'

def follow (o : Outlet) (cues : List Cue) : Option Outlet := cues.foldlM next? o

@[simp] theorem follow_nil {o o' : Outlet} : o.follow [] = some o' ↔ o = o' := by
  simp only [follow, List.foldlM_nil, Option.pure_def, Option.some.injEq]

theorem follow_cons {o o' : Outlet} {cue : Cue} {cues : List Cue} :
    o.follow (cue :: cues) = some o' ↔ ∃ o₁, o.next? cue = some o₁ ∧ o₁.follow cues = some o' := by
  simp only [follow, List.foldlM_cons, Option.bind_eq_bind, Option.bind_eq_some_iff]

theorem Reachable.follow {o o' : Outlet} {cues : List Cue} (h : Reachable o)
    (hf : o.follow cues = some o') : Reachable o' := by
  induction cues generalizing o with
  | nil => exact follow_nil.mp hf ▸ h
  | cons cue cues ih =>
    obtain ⟨o₁, step, rest⟩ := follow_cons.mp hf
    exact ih (h.next cue step) rest

/-- What somebody outside does without taking time: nothing but readings that enter the fan-out
comes into the journal, and nothing is observed. -/
structure Visited (s s' : Scene) : Prop where
  now : s'.now = s.now
  cancelled : s'.cancelled = s.cancelled
  counts : s'.counts = s.counts
  metrics : s'.metrics = s.metrics
  kind : s'.broker.kind = s.broker.kind
  journal : s'.journal = s.journal ∨ ∃ r, s'.journal = ⟨s.now, .entered .fanout r⟩ :: s.journal
  flows : s.Flows → s'.Flows
  ages : s.fanout.Ages s'.fanout

namespace Visited
variable {s : Scene}

theorem setQueue {q : ReadingQueue} (buffer : q.buffer = s.fanout.buffer)
    (closed : s.fanout.isClosed = true → q.isClosed = true) :
    Visited s (s.setQueue .fanout q) :=
  ⟨rfl, rfl, rfl, rfl, rfl, .inl rfl, fun flows => flows.setQueue buffer,
    closed, fun _ empty => buffer.trans empty⟩

theorem enters {q : ReadingQueue} {r : Reading} (buffer : q.buffer = s.fanout.buffer ++ [r])
    (opened : s.fanout.isClosed = false) :
    Visited s ((s.setQueue .fanout q).record (.entered .fanout r)) :=
  ⟨rfl, rfl, rfl, rfl, rfl, .inr ⟨r, rfl⟩, fun flows => flows.enter buffer, .of_opened opened q⟩

theorem offer (r : Reading) : Visited s (s.offer .fanout r).2 := by
  have looked := s.fanout.offers r
  unfold Scene.offer
  rw [show (s.queue .fanout) = s.fanout from rfl]
  generalize s.fanout.offer r = look at looked
  cases looked with
  | closed closed => exact setQueue rfl id
  | full opened full => exact setQueue rfl id
  | accepted opened room => exact enters rfl opened

theorem send (who : Party) (parked : Bool) (r : Reading) :
    Visited s (if parked then s.resend .fanout who r else s.send .fanout who r).2 := by
  have looks (q : ReadingQueue) (buffer : q.buffer = s.fanout.buffer)
      (closed : q.isClosed = s.fanout.isClosed) :
      Visited s (s.afterSend .fanout r (q.send who r)).2 := by
    have looked := q.sends who r
    generalize q.send who r = look at looked
    cases looked with
    | refused shut => exact setQueue buffer fun h => closed.trans h
    | waits opened full => exact setQueue buffer fun h => closed.trans h
    | accepted opened room =>
      exact enters (congrArg (· ++ [r]) buffer) (closed.symm.trans opened)
  cases parked with
  | true => exact looks { s.fanout with writable := s.fanout.writable.resume who } rfl rfl
  | false => exact looks s.fanout rfl rfl

theorem turn (b : BrokerSwitch) : Visited s { s with broker := s.broker.turn b } :=
  ⟨rfl, rfl, rfl, rfl, Broker.turn_kind b, .inl rfl, fun flows => flows, .refl _⟩

end Visited

inductive Turn (o : Outlet) : Outlet → Prop
  | publisher (ready : o.publisher.isReady o.scene = true) :
      Turn o { o with
        publisher := (o.publisher.step o.scene).1
        scene := (o.publisher.step o.scene).2 }
  | visit {s : Scene} (visited : Visited o.scene s) : Turn o { o with scene := s }
  | cancel : Turn o { o with
      scene := { o.scene with cancelled := true }
      since := o.since.or (some o.scene.now) }
  | time {t : Nat} (idle : o.publisher.isReady o.scene = false) (later : o.scene.now ≤ t)
      (early : t < Instant.limit)
      (alarms : ∀ a ∈ o.publisher.alarms,
        Instant.ring a ≤ o.scene.now ∨ t ≤ Instant.ring a) :
      Turn o { o with scene := { o.scene with now := t } }

theorem turn_of_next {o o' : Outlet} {cue : Cue} (h : o.next? cue = some o') : Turn o o' := by
  cases cue with
  | publisher =>
    simp only [next?, Option.ite_none_right_eq_some, Option.some.injEq] at h
    exact h.2 ▸ .publisher h.1
  | offer r => exact Option.some.inj h ▸ .visit (.offer r)
  | send who parked r => exact Option.some.inj h ▸ .visit (.send who parked r)
  | abandonSend who => exact Option.some.inj h ▸ .visit (.setQueue rfl id)
  | close => exact Option.some.inj h ▸ .visit (.setQueue rfl fun _ => rfl)
  | cancel => exact Option.some.inj h ▸ .cancel
  | turn b => exact Option.some.inj h ▸ .visit (.turn b)
  | time t =>
    simp only [next?, mayPassTo, Option.ite_none_right_eq_some, Option.some.injEq,
      Bool.and_eq_true, Bool.not_eq_true', decide_eq_true_eq, List.all_eq_true, Bool.or_eq_true,
      Instant.isDue_iff] at h
    obtain ⟨⟨⟨⟨idle, later⟩, early⟩, alarms⟩, rfl⟩ := h
    exact .time idle later early alarms

theorem Reachable.invariant {P : Outlet → Prop} {o : Outlet} (h : Reachable o)
    (start : ∀ {o}, Fresh o → P o) (turn : ∀ {o o'}, Reachable o → Turn o o' → P o → P o') : P o := by
  induction h with
  | start fresh => exact start fresh
  | next prior cue step ih => exact turn prior (turn_of_next step) ih

theorem Fresh.exists_reachable {o : Outlet} (h : o.Fresh) (cues : List Cue) (test : Outlet → Bool)
    (passes : (o.follow cues).any test = true) : ∃ o', Reachable o' ∧ test o' = true := by
  obtain ⟨o', followed, passed⟩ := (Option.any_eq_true _ _).mp passes
  exact ⟨o', (Reachable.start h).follow followed, passed⟩

def setUp (b : Broker) (publishTimeout : Nat) (drainTimeout : Option Nat) : Outlet where
  publisher :=
    { stage := .fanout
      subjectRoot := "sensors"
      publishTimeout := publishTimeout
      statsInterval := Duration.ofMillis 30000
      drainTimeout := drainTimeout }
  scene :=
    { primary := Channel.new 1
      fanout := Channel.new 8
      clock := .fixed default
      sources := fun _ _ _ => .crash .other
      broker := b }
  since := none

theorem setUp_fresh {b : Broker} (calm : b.kind.Calm) (publishTimeout : Nat)
    (drainTimeout : Option Nat) : (setUp b publishTimeout drainTimeout).Fresh :=
  ⟨rfl, rfl, rfl, rfl, rfl, (by decide : 0 < Instant.limit), rfl, fun stage => by cases stage <;> rfl, calm, rfl, rfl⟩

end Outlet
end SensorFleet
