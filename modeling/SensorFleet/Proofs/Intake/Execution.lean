import SensorFleet.Proofs.Outlet.Account

/-!
Executions of an aggregator alone. Whoever is outside does what it likes with both queues, cancels and
closes, at any time and in any order, but only the aggregator takes readings out of the primary queue.
Time passes while the aggregator cannot go on, at most until its next tick rings. Along the way it is
noted when the aggregator began.
-/
namespace SensorFleet

namespace Happening

def isReceipt : Happening → Bool
  | .taken .primary _ => true
  | _ => false

def isDraining : Happening → Bool
  | .notice (.drainingQueue ..) => true
  | _ => false

def isSummary : Happening → Bool
  | .notice (.aggregatorSummary ..) => true
  | _ => false

/-- Whether it matters to what an aggregator reports. -/
def isTallied (w : Happening) : Bool := w.isReceipt || w.isDraining || w.isSummary

theorem isSummary_of_beside {w : Happening} (beside : w.isTallied = false) : w.isSummary = false :=
  (Bool.or_eq_false_iff.mp beside).2

end Happening

/-- What others may do around an aggregator: anything that takes no time and writes nothing that
matters to its reports. -/
structure Scene.Bypasses (s s' : Scene) : Prop where
  now : s'.now = s.now
  journal : ∃ new, s'.journal = new ++ s.journal ∧ ∀ e ∈ new, e.what.isTallied = false

namespace Aggregator

structure Leaves (a : Aggregator) (s : Scene) (what : List Happening) (phase : AggregatorPhase)
    (received lastSummary : Nat) (draining : Bool) (a' : Aggregator) (s' : Scene) : Prop where
  tells : ∃ observed, s.Tells what observed s'
  phase : a'.phase = phase
  interval : a'.summaryInterval = a.summaryInterval
  received : a'.report.received = received
  lastSummary : a'.lastSummary = lastSummary
  draining : a'.draining = draining

inductive Does (a : Aggregator) (s : Scene) (a' : Aggregator) (s' : Scene) : Prop
  | stalls (fault : TickerFault) (created : a.phase = .created)
      (failed : Ticker.start? s.now a.summaryInterval = .error fault)
      (leaves : a.Leaves s [] (.ended (.crashed (.text fault.message))) a.report.received
        a.lastSummary a.draining a' s')
  | starts (ticker : Ticker) (created : a.phase = .created)
      (started : Ticker.start? s.now a.summaryInterval = .ok ticker)
      (leaves : a.Leaves s [.notice .aggregatorStarting] (.waiting ticker false) a.report.received
        a.lastSummary a.draining a' s')
  | drains (ticker : Ticker) (parked : Bool) (buffered : Nat)
      (waiting : a.phase = .waiting ticker parked) (first : a.draining = false)
      (leaves : a.Leaves s [.notice (.drainingQueue a.report.received buffered)]
        (.waiting ticker false) a.report.received a.lastSummary true a' s')
  | sums (ticker : Ticker) (parked : Bool) (buffered : Nat)
      (waiting : a.phase = .waiting ticker parked) (due : ticker.isDue s.now = true)
      (leaves : a.Leaves s
        [.notice (.aggregatorSummary a.report.received (a.report.received - a.lastSummary) buffered)]
        (.waiting (ticker.advance s.now) false) a.report.received a.report.received a.draining a' s')
  | takes (ticker : Ticker) (parked : Bool) (r : Reading) (remarks : List Happening)
      (waiting : a.phase = .waiting ticker parked)
      (beside : ∀ w ∈ remarks, w.isTallied = false)
      (leaves : a.Leaves s (.taken .primary r :: remarks) (.waiting ticker false)
        (a.report.received + 1) a.lastSummary a.draining a' s')
  | stops (ticker : Ticker) (parked : Bool) (waiting : a.phase = .waiting ticker parked)
      (endedAt : a'.endedAt = s.now)
      (leaves : a.Leaves s [.notice (.aggregatorStopping a.report.received a.report.forwarded
        a.report.dropped)] (.ended (.returned a.report)) a.report.received a.lastSummary a.draining
        a' s')
  | parks (ticker : Ticker) (parked : Bool) (waiting : a.phase = .waiting ticker parked)
      (leaves : a.Leaves s [] (.waiting ticker true) a.report.received a.lastSummary a.draining a' s')

theorem Does.interval {a a' : Aggregator} {s s' : Scene} (h : a.Does s a' s') :
    a'.summaryInterval = a.summaryInterval := by
  cases h with
  | stalls _ _ _ leaves | starts _ _ _ leaves | stops _ _ _ _ leaves | parks _ _ _ leaves =>
    exact leaves.interval
  | drains _ _ _ _ _ leaves | sums _ _ _ _ _ leaves => exact leaves.interval
  | takes _ _ _ _ _ _ leaves => exact leaves.interval

section Steps
variable {a a₀ : Aggregator} {s s₁ : Scene} {what : List Happening} {observed : List Observation}

/-- Of the aggregator before the step nothing matters but the interval. -/
theorem Leaves.congr {phase : AggregatorPhase} {received lastSummary : Nat} {draining : Bool}
    {a' : Aggregator} {s' : Scene}
    (h : a₀.Leaves s what phase received lastSummary draining a' s')
    (same : a₀.summaryInterval = a.summaryInterval) :
    a.Leaves s what phase received lastSummary draining a' s' :=
  ⟨h.tells, h.phase, h.interval.trans same, h.received, h.lastSummary, h.draining⟩

theorem forward_leaves (told : s.Tells what observed s₁) (r : Reading) :
    ∃ remark, remark.isTallied = false ∧
      a.Leaves s (what ++ [remark]) a.phase a.report.received a.lastSummary a.draining
        (a.forward s₁ r).1 (a.forward s₁ r).2 := by
  have offered := (s₁.queue .fanout).offers r
  unfold forward Scene.offer
  generalize (s₁.queue .fanout).offer r = look at offered
  cases offered with
  | closed | full =>
    refine ⟨_, ?_, ⟨_, ((told.setQueue .fanout _).count _).log _⟩, rfl, rfl, rfl, rfl, rfl⟩
    split <;> rfl
  | accepted =>
    exact ⟨.entered .fanout r, rfl, ⟨_, (told.setQueue .fanout _).record _⟩, rfl, rfl, rfl, rfl, rfl⟩

theorem receive_leaves (told : s.Tells what observed s₁) (r : Reading) :
    ∃ remarks, (∀ w ∈ remarks, w.isTallied = false) ∧
      a.Leaves s (what ++ remarks) a.phase (a.report.received + 1) a.lastSummary a.draining
        (a.receive s₁ r).1 (a.receive s₁ r).2 := by
  have heard := (told.count .readingReceived).log (.readingReceived r.producer r.value)
  have plain : (Happening.notice (.readingReceived r.producer r.value)).isTallied = false := rfl
  unfold receive
  dsimp only
  split
  · obtain ⟨remark, beside, leaves⟩ := forward_leaves (a := { a with
      report := { a.report with received := a.report.received + 1 } }) heard r
    rw [List.append_assoc] at leaves
    refine ⟨_, ?_, leaves.congr rfl⟩
    intro w told
    rcases List.mem_pair.mp told with rfl | rfl
    · exact plain
    · exact beside
  · refine ⟨_, ?_, ⟨_, heard⟩, rfl, rfl, rfl, rfl, rfl⟩
    intro w told
    rw [List.mem_singleton.mp told]
    exact plain

theorem finish_leaves (told : s.Tells what observed s₁) :
    (a.finish s₁).1.endedAt = s.now ∧
      a.Leaves s (what ++ [.notice (.aggregatorStopping a.report.received a.report.forwarded
        a.report.dropped)]) (.ended (.returned a.report)) a.report.received a.lastSummary a.draining
        (a.finish s₁).1 (a.finish s₁).2 := by
  have shut : s.Tells what observed (if a.forwards then (s₁.close .fanout).2 else s₁) := by
    split
    · exact told.setQueue .fanout _
    · exact told
  exact ⟨shut.now, ⟨_, shut.log _⟩, rfl, rfl, rfl, rfl, rfl⟩

theorem step_does (a : Aggregator) (s : Scene) (live : a.ending? = none) :
    a.Does s (a.step s).1 (a.step s).2 := by
  have still := Scene.Tells.refl s
  unfold step
  cases phase : a.phase with
  | created =>
    dsimp only [start]
    cases started : Ticker.start? s.now a.summaryInterval with
    | error fault => exact .stalls fault phase started ⟨⟨_, still⟩, rfl, rfl, rfl, rfl, rfl⟩
    | ok ticker => exact .starts ticker phase started ⟨⟨_, still.log _⟩, rfl, rfl, rfl, rfl, rfl⟩
  | waiting ticker parked =>
    have left := still.abandonRecv .primary .aggregator parked
    dsimp only
    split
    next seen =>
      have first : a.draining = false := by
        rw [Bool.and_eq_true, Bool.not_eq_true'] at seen
        exact seen.2
      exact .drains ticker parked _ phase first ⟨⟨_, left.log _⟩, rfl, rfl, rfl, rfl, rfl⟩
    · split
      next due =>
        have next : AggregatorPhase.waiting
            (ticker.advance (s.abandonRecv .primary .aggregator parked).now) false =
            .waiting (ticker.advance s.now) false := by rw [left.now]
        exact .sums ticker parked _ phase due ⟨⟨_, left.log _⟩, next, rfl, rfl, rfl, rfl⟩
      · have looked := s.receives .primary .aggregator parked
        generalize s.recv .primary .aggregator parked = look at looked
        cases looked with
        | @item r rest buffer =>
          have told := (still.setQueue .primary
            (((s.queue .primary).readerBack .aggregator parked).itemTaken rest)).record
              (.taken .primary r)
          obtain ⟨remarks, beside, leaves⟩ :=
            receive_leaves (a := { a with phase := .waiting ticker false }) told r
          exact .takes ticker parked r remarks phase beside (leaves.congr rfl)
        | ended buffer closed =>
          obtain ⟨endedAt, leaves⟩ := finish_leaves (a := a) (still.setQueue .primary
            ((s.queue .primary).readerBack .aggregator parked).endSeen)
          exact .stops ticker parked phase endedAt leaves
        | waits buffer opened =>
          exact .parks ticker parked phase ⟨⟨_, still.setQueue .primary _⟩, rfl, rfl, rfl, rfl, rfl⟩
  | ended e => simp [ending?, phase] at live

end Steps
end Aggregator

structure Intake where
  aggregator : Aggregator
  scene : Scene
  /-- When it began, once it has. -/
  began : Option Nat := none

namespace Intake

def act (o : Intake) : Intake :=
  let (a, s) := o.aggregator.step o.scene
  { aggregator := a, scene := s, began := o.began.or (some o.scene.now) }

def enter (o : Intake) (s : Scene) : Intake := { o with scene := s }

@[simp] theorem enter_aggregator (o : Intake) (s : Scene) : (o.enter s).aggregator = o.aggregator :=
  rfl

@[simp] theorem enter_scene (o : Intake) (s : Scene) : (o.enter s).scene = s := rfl

/-- Whether time may pass up to an instant. -/
def mayPassTo (o : Intake) (t : Nat) : Bool :=
  !o.aggregator.isReady o.scene && o.scene.now ≤ t &&
    o.aggregator.alarms.all fun a => Instant.isDue a o.scene.now || t ≤ Instant.ring a

inductive Turn (o : Intake) : Intake → Prop
  | aggregator (ready : o.aggregator.isReady o.scene = true) : Turn o o.act
  | others {s : Scene} (bypasses : o.scene.Bypasses s) : Turn o (o.enter s)
  | time {t : Nat} (may : o.mayPassTo t = true) : Turn o (o.enter { o.scene with now := t })

structure Fresh (o : Intake) : Prop where
  created : o.aggregator.phase = .created
  received : o.aggregator.report.received = 0
  lastSummary : o.aggregator.lastSummary = 0
  draining : o.aggregator.draining = false
  began : o.began = none
  journal : ∀ e ∈ o.scene.journal, e.what.isTallied = false

/-- What an execution can come to. -/
inductive Reachable : Intake → Prop
  | start {o : Intake} (fresh : o.Fresh) : Reachable o
  | next {o o' : Intake} (prior : Reachable o) (turn : Turn o o') : Reachable o'

inductive Cue
  | aggregator
  | offer (r : Reading)
  | close
  | cancel
  | time (t : Nat)
deriving DecidableEq, Repr

def next? (o : Intake) : Cue → Option Intake
  | .aggregator => if o.aggregator.isReady o.scene then some o.act else none
  | .offer r => some (o.enter (o.scene.offer .primary r).2)
  | .close => some (o.enter (o.scene.close .primary).2)
  | .cancel => some (o.enter { o.scene with cancelled := true })
  | .time t => if o.mayPassTo t then some (o.enter { o.scene with now := t }) else none

theorem bypasses_offer (s : Scene) (r : Reading) : s.Bypasses (s.offer .primary r).2 := by
  unfold Scene.offer
  split
  · exact ⟨rfl, [⟨s.now, .entered .primary r⟩], rfl, List.forall_mem_singleton.mpr rfl⟩
  · exact ⟨rfl, [], rfl, List.forall_mem_nil _⟩

theorem turn_of_next {o o' : Intake} {cue : Cue} (h : o.next? cue = some o') : Turn o o' := by
  cases cue with
  | aggregator =>
    simp only [next?, Option.ite_none_right_eq_some, Option.some.injEq] at h
    exact h.2 ▸ .aggregator h.1
  | offer r => exact Option.some.inj h ▸ .others (bypasses_offer o.scene r)
  | close | cancel => exact Option.some.inj h ▸ .others ⟨rfl, [], rfl, List.forall_mem_nil _⟩
  | time t =>
    simp only [next?, Option.ite_none_right_eq_some, Option.some.injEq] at h
    exact h.2 ▸ .time h.1

def follow (o : Intake) (cues : List Cue) : Option Intake := cues.foldlM next? o

theorem Reachable.follow {o o' : Intake} {cues : List Cue} (h : Reachable o)
    (followed : o.follow cues = some o') : Reachable o' := by
  induction cues generalizing o with
  | nil => exact Option.some.inj followed ▸ h
  | cons cue cues ih =>
    rw [Intake.follow, List.foldlM_cons, Option.bind_eq_bind, Option.bind_eq_some_iff] at followed
    obtain ⟨o₁, step, rest⟩ := followed
    exact ih (h.next (turn_of_next step)) rest

def setUp (interval capacity : Nat) (forwards : Bool) : Intake where
  aggregator := { summaryInterval := interval, forwards := forwards }
  scene :=
    { primary := Channel.new capacity
      fanout := Channel.new 1
      clock := .fixed default
      sources := fun _ _ _ => .source fun _ => .value default
      broker := { kind := .recording } }

theorem setUp_fresh (interval capacity : Nat) (forwards : Bool) :
    (setUp interval capacity forwards).Fresh := ⟨rfl, rfl, rfl, rfl, rfl, List.forall_mem_nil _⟩

theorem exists_played (interval capacity : Nat) (forwards : Bool) (cues : List Cue)
    (test : Intake → Bool)
    (passes : ((setUp interval capacity forwards).follow cues).any test = true) :
    ∃ o, Reachable o ∧ test o = true := by
  obtain ⟨o, followed, passed⟩ := (Option.any_eq_true _ _).mp passes
  exact ⟨o, (Reachable.start (setUp_fresh interval capacity forwards)).follow followed, passed⟩

end Intake
end SensorFleet
