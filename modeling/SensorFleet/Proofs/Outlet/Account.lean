import SensorFleet.Proofs.Fleet.CalmPorts

/-!
The account that a publisher gives of each of its steps: what it writes into the journal, what it
observes, and what becomes of the reading at hand. A step deals with at most one reading. The
outcome of a publish in flight is that of the alarm that rings first, where the answer goes before
the timeout and the timeout before the deadline.
-/
namespace SensorFleet

def PublishOutcome.observation (id : ProducerId) : PublishOutcome → Observation
  | .published => .publishSucceeded id
  | .failed e => .publishFailed id e.reason
  | .dropped => .publishFailed id "dropped"

def PublishOutcome.notices (id : ProducerId) : PublishOutcome → List Happening
  | .failed e =>
    [.notice (if e = .notConnected then .publishSkipped id else .publishFailed id e)]
  | _ => []

/-- What the journal says when a reading is settled. -/
def PublishOutcome.entries (r : Reading) (o : PublishOutcome) : List Happening :=
  .publishOver r o :: o.notices r.producer

namespace Happening

def isDeadline : Happening → Bool
  | .notice (.deadlinePassed _) | .notice (.deadlinePassedMidPublish _) => true
  | _ => false

/-- Whether it is a notice of no consequence to publishing. -/
def isRemark (w : Happening) : Bool :=
  match w with
  | .notice _ => !w.isDeadline && w.dealing?.isNone
  | _ => false

end Happening

namespace Scene

/-- What was written into the journal since, in order, and what was observed. -/
structure Tells (s : Scene) (what : List Happening) (observed : List Observation) (s' : Scene) :
    Prop where
  now : s'.now = s.now
  cancelled : s'.cancelled = s.cancelled
  counts : s'.counts = s.counts
  journal : s'.journal = (what.map (Entry.mk s.now)).reverse ++ s.journal
  metrics : s'.metrics = if s.counts then observed.foldl Metrics.note s.metrics else s.metrics

namespace Tells
variable {s s' : Scene} {what : List Happening} {observed : List Observation}

theorem refl (s : Scene) : s.Tells [] [] s := ⟨rfl, rfl, rfl, rfl, (ite_self _).symm⟩

theorem record (h : s.Tells what observed s') (w : Happening) :
    s.Tells (what ++ [w]) observed (s'.record w) :=
  ⟨h.now, h.cancelled, h.counts, by simp [Scene.record, h.journal, h.now], h.metrics⟩

theorem log (h : s.Tells what observed s') (n : Notice) :
    s.Tells (what ++ [.notice n]) observed (s'.log n) := h.record _

theorem count (h : s.Tells what observed s') (o : Observation) :
    s.Tells what (observed ++ [o]) (s'.count o) := by
  have counted : (s'.count o).metrics =
      if s.counts then (observed ++ [o]).foldl Metrics.note s.metrics else s.metrics := by
    rw [count_eq, h.counts, h.metrics, List.foldl_append]
    cases s.counts <;> rfl
  rw [count_eq] at counted ⊢
  exact ⟨h.now, h.cancelled, h.counts, h.journal, counted⟩

theorem setQueue (h : s.Tells what observed s') (stage : Stage) (q : ReadingQueue) :
    s.Tells what observed (s'.setQueue stage q) := by
  cases stage <;> exact ⟨h.now, h.cancelled, h.counts, h.journal, h.metrics⟩

theorem setBroker (h : s.Tells what observed s') (b : Broker) :
    s.Tells what observed { s' with broker := b } :=
  ⟨h.now, h.cancelled, h.counts, h.journal, h.metrics⟩

theorem abandonRecv (h : s.Tells what observed s') (stage : Stage) (who : Party) (parked : Bool) :
    s.Tells what observed (s'.abandonRecv stage who parked) := by
  unfold Scene.abandonRecv
  split
  · exact h.setQueue stage _
  · exact h

end Tells

theorem abandonRecv_broker (s : Scene) (stage : Stage) (who : Party) (parked : Bool) :
    (s.abandonRecv stage who parked).broker = s.broker := by
  unfold abandonRecv
  split
  · cases stage <;> rfl
  · rfl

end Scene

namespace Publisher

structure SameSettings (p p' : Publisher) : Prop where
  stage : p'.stage = p.stage
  subjectRoot : p'.subjectRoot = p.subjectRoot
  publishTimeout : p'.publishTimeout = p.publishTimeout
  drainTimeout : p'.drainTimeout = p.drainTimeout

structure Flight where
  reading : Reading
  pending : PendingPublish
  started : Nat
  timeout : Option Nat

def aloft? (p : Publisher) : Option Flight :=
  match p.phase with
  | .publishing _ r pending started timeout => some ⟨r, pending, started, timeout⟩
  | _ => none

structure Yields (p : Publisher) (s : Scene) (what : List Happening) (observed : List Observation)
    (b : Broker) (n : PublisherReport) (flight : Option Flight) (p' : Publisher) (s' : Scene) :
    Prop where
  tells : s.Tells what observed s'
  broker : s'.broker = b
  report : p'.report = n
  aloft : p'.aloft? = flight
  settings : p.SameSettings p'

def observations (r : Reading) (latency : Option Nat) (o : PublishOutcome) : List Observation :=
  (latency.toList.map fun l => .publishLatency r.producer l) ++ [o.observation r.producer]

/-- What becomes of a publish in flight: the outcome, the latency that is observed, the notice of
the deadline and the broker afterwards. -/
inductive Lands (p : Publisher) (s : Scene) (f : Flight) :
    PublishOutcome → Option Nat → List Happening → Broker → Prop
  | answered {outcome : PublishOutcome} (rung : Instant.hasRung f.pending.alarm s.now = true)
      (given : (s.broker.finish f.pending.remainder).1.outcome? = some outcome) :
      Lands p s f outcome (some (s.now - f.started)) [] (s.broker.finish f.pending.remainder).2
  | timedOut (silent : Instant.hasRung f.pending.alarm s.now = false)
      (rung : Instant.hasRung f.timeout s.now = true) :
      Lands p s f (.failed (.timeout p.publishTimeout)) (some (s.now - f.started)) [] s.broker
  | cutOff (silent : Instant.hasRung f.pending.alarm s.now = false)
      (early : Instant.hasRung f.timeout s.now = false) (passed : p.deadlinePassed s = true) :
      Lands p s f .dropped none [.notice (.deadlinePassedMidPublish f.reading.producer)] s.broker

def SameDeadline (p p' : Publisher) : Prop :=
  p'.deadline = p.deadline ∧ p'.abandoned = p.abandoned

inductive Acts (p : Publisher) (s : Scene) (p' : Publisher) (s' : Scene) : Prop
  | fails (c : Crash) (created : p.phase = .created) (ended : p'.ending? = some (.crashed c))
      (scene : s' = s) (report : p'.report = p.report) (settings : p.SameSettings p')
      (same : p.SameDeadline p')
  | rests (what : List Happening) (observed : List Observation)
      (remarks : ∀ w ∈ what, w.isRemark = true)
      (quiet : ∀ o ∈ observed, ∃ connected, o = .brokerConnection connected)
      (yields : p.Yields s what observed s.broker p.report p.aloft? p' s')
      (same : p.SameDeadline p')
  | sees (seen : p.seesCancellation s = true)
      (yields : p.Yields s [] [] s.broker p.report p.aloft? p' s')
      (deadline : p'.deadline = .set (p.drainTimeout.bind (Instant.graceEnd? s.now)))
      (abandoned : p'.abandoned = p.abandoned)
  | givesUp (n : Nat) (passed : p.deadlinePassed s = true) (grounded : p.aloft? = none)
      (yields : p.Yields s [.notice (.deadlinePassed n)] [] s.broker p.report none p' s')
      (deadline : p'.deadline = p.deadline) (abandoned : p'.abandoned = true)
  | declines (r : Reading) (outcome : PublishOutcome) (grounded : p.aloft? = none)
      (why : outcome = .dropped ∧ p.abandoned = true ∨
        outcome = .failed .notConnected ∧ p.abandoned = false)
      (yields : p.Yields s (.taken .fanout r :: outcome.entries r) (observations r none outcome)
        s.broker (p.report.add outcome) none p' s')
      (same : p.SameDeadline p')
  | asks (r : Reading) (a : Answer) (b : Broker) (outcome : PublishOutcome)
      (grounded : p.aloft? = none) (going : p.abandoned = false)
      (started : s.broker.start s.now (r.message p.subjectRoot) = (.done a, b))
      (given : a.outcome? = some outcome)
      (yields : p.Yields s (.taken .fanout r :: .publishBegun r :: outcome.entries r)
        (observations r (some 0) outcome) b (p.report.add outcome) none p' s')
      (same : p.SameDeadline p')
  | begins (r : Reading) (pending : PendingPublish) (b : Broker)
      (grounded : p.aloft? = none) (going : p.abandoned = false)
      (started : s.broker.start s.now (r.message p.subjectRoot) = (.waiting pending, b))
      (yields : p.Yields s [.taken .fanout r, .publishBegun r] [] b p.report
        (some ⟨r, pending, s.now, Instant.after? s.now p.publishTimeout⟩) p' s')
      (same : p.SameDeadline p')
  | lands (f : Flight) (outcome : PublishOutcome) (latency : Option Nat)
      (notices : List Happening) (b : Broker) (flying : p.aloft? = some f)
      (landed : p.Lands s f outcome latency notices b)
      (yields : p.Yields s (notices ++ outcome.entries f.reading)
        (observations f.reading latency outcome) b (p.report.add outcome) none p' s')
      (deadline : p'.deadline = p.deadline)
      (abandoned : p'.abandoned = if outcome = .dropped then true else p.abandoned)

section Steps
variable {p : Publisher} {s s₁ : Scene} {what : List Happening} {observed : List Observation}

theorem settle_yields (tells : s.Tells what observed s₁) (ticker : Ticker) (r : Reading)
    (outcome : PublishOutcome) :
    p.Yields s (what ++ outcome.entries r) (observed ++ [outcome.observation r.producer])
      s₁.broker (p.report.add outcome) none (p.settle s₁ ticker r outcome).1
      (p.settle s₁ ticker r outcome).2 := by
  have settled := (tells.record (.publishOver r outcome)).count (outcome.observation r.producer)
  have counted (o : Observation) :
      ((s₁.record (.publishOver r outcome)).count o).broker = s₁.broker := by
    rw [Scene.count_eq]
    rfl
  cases outcome with
  | published | dropped =>
    exact ⟨settled, counted _, rfl, rfl, ⟨rfl, rfl, rfl, rfl⟩⟩
  | failed e =>
    have logged := settled.log
      (if e = .notConnected then .publishSkipped r.producer else .publishFailed r.producer e)
    rw [List.append_assoc] at logged
    exact ⟨logged, counted _, rfl, rfl, ⟨rfl, rfl, rfl, rfl⟩⟩

theorem settle_sameDeadline (p : Publisher) (s : Scene) (ticker : Ticker) (r : Reading)
    (outcome : PublishOutcome) : p.SameDeadline (p.settle s ticker r outcome).1 := by
  cases outcome <;> exact ⟨rfl, rfl⟩

theorem conclude_yields (tells : s.Tells what [] s₁) (ticker : Ticker) (r : Reading)
    (started : Nat) {a : Answer} {outcome : PublishOutcome} (given : a.outcome? = some outcome) :
    p.Yields s (what ++ outcome.entries r) (observations r (some (s.now - started)) outcome)
      s₁.broker (p.report.add outcome) none (p.conclude s₁ ticker r started a).1
      (p.conclude s₁ ticker r started a).2 ∧
    p.SameDeadline (p.conclude s₁ ticker r started a).1 := by
  have timed := tells.count (.publishLatency r.producer (s₁.now - started))
  have broker : (s₁.count (.publishLatency r.producer (s₁.now - started))).broker = s₁.broker := by
    rw [Scene.count_eq]
  have settles := settle_yields (p := p) timed ticker r outcome
  rw [broker, tells.now] at settles
  cases a with
  | accepted | failed e =>
    obtain rfl : _ = outcome := Option.some.inj given
    rw [conclude, tells.now]
    exact ⟨settles, settle_sameDeadline _ _ _ _ _⟩
  | crashed c => cases given

theorem outcome_of_calm {a : Answer} (calm : a.Calm) : ∃ outcome, a.outcome? = some outcome := by
  cases a with
  | accepted => exact ⟨_, rfl⟩
  | failed e => exact ⟨_, rfl⟩
  | crashed c => exact absurd rfl (calm c)

theorem outcome_ne_dropped {a : Answer} {outcome : PublishOutcome}
    (given : a.outcome? = some outcome) : outcome ≠ .dropped := by
  rintro rfl
  cases a <;> cases given

theorem publish_acts (calm : s.broker.kind.Calm) {r : Reading} (grounded : p.aloft? = none)
    (tells : s.Tells [.taken .fanout r] [] s₁) (broker : s₁.broker = s.broker) (ticker : Ticker) :
    p.Acts s (p.publish s₁ ticker r).1 (p.publish s₁ ticker r).2 := by
  have declines (outcome : PublishOutcome) := settle_yields (p := p) tells ticker r outcome
  rw [broker] at declines
  unfold publish
  split
  next abandoned =>
    exact .declines r .dropped grounded (.inl ⟨rfl, abandoned⟩) (declines _)
      (settle_sameDeadline _ _ _ _ _)
  next going =>
    rw [Bool.not_eq_true] at going
    split
    · exact .declines r (.failed .notConnected) grounded (.inr ⟨rfl, going⟩) (declines _)
        (settle_sameDeadline _ _ _ _ _)
    · have begun := tells.record (.publishBegun r)
      have asked : (s₁.record (.publishBegun r)).broker.start (s₁.record (.publishBegun r)).now
          ⟨r.subject p.subjectRoot, r.payload⟩ = s.broker.start s.now (r.message p.subjectRoot) := by
        rw [← broker, ← tells.now]
        rfl
      have now : (s₁.record (.publishBegun r)).now = s.now := tells.now
      have calmStart := Broker.start_calm calm s.now (r.message p.subjectRoot)
      dsimp only
      rw [asked]
      cases started : s.broker.start s.now (r.message p.subjectRoot) with
      | mk start b =>
        rw [started] at calmStart
        cases start with
        | done a =>
          obtain ⟨outcome, given⟩ := outcome_of_calm calmStart
          obtain ⟨yields, same⟩ := conclude_yields (p := p) (begun.setBroker b) ticker r
            (s₁.record (.publishBegun r)).now given
          have latency : s.now - (s₁.record (.publishBegun r)).now = 0 := by rw [now, Nat.sub_self]
          rw [latency] at yields
          exact .asks r a b outcome grounded going started given yields same
        | waiting pending =>
          refine .begins r pending b grounded going started
            ⟨begun.setBroker b, rfl, rfl, ?_, ⟨rfl, rfl, rfl, rfl⟩⟩ ⟨rfl, rfl⟩
          rw [← now]
          rfl

theorem start_acts (created : p.phase = .created) :
    p.Acts s (p.start s).1 (p.start s).2 := by
  have grounded : p.aloft? = none := by simp [aloft?, created]
  unfold start
  split
  · exact .fails _ created rfl rfl rfl ⟨rfl, rfl, rfl, rfl⟩ ⟨rfl, rfl⟩
  · have told := ((Scene.Tells.refl s).log (.publisherStarting p.subjectRoot)).count
      (.brokerConnection s.broker.isConnected)
    refine .rests _ _ ?_ ?_ ⟨told, by rw [Scene.count_eq]; rfl, rfl, grounded.symm,
      ⟨rfl, rfl, rfl, rfl⟩⟩ ⟨rfl, rfl⟩
    · simp [Happening.isRemark, Happening.isDeadline, Happening.dealing?]
    · simp

theorem finish_acts (grounded : p.aloft? = none) (tells : s.Tells [] [] s₁)
    (broker : s₁.broker = s.broker) : p.Acts s (p.finish s₁).1 (p.finish s₁).2 := by
  have told := (tells.count (.brokerConnection s₁.broker.isConnected)).log
    (.publisherStopping p.report.attempted p.report.success p.report.failures p.report.dropped)
  unfold finish
  refine .rests _ _ ?_ ?_ ⟨told, ?_, rfl, grounded.symm, ⟨rfl, rfl, rfl, rfl⟩⟩ ⟨rfl, rfl⟩
  · simp [Happening.isRemark, Happening.isDeadline, Happening.dealing?]
  · simp
  · rw [Scene.count_eq]
    exact broker

theorem stepWaiting_acts (calm : s.broker.kind.Calm) (stage : p.stage = .fanout) {ticker : Ticker}
    {parked : Bool} (phase : p.phase = .waiting ticker parked) :
    p.Acts s (p.stepWaiting s ticker parked).1 (p.stepWaiting s ticker parked).2 := by
  have grounded : p.aloft? = none := by simp [aloft?, phase]
  have hs := Scene.Tells.refl s
  have leave := hs.abandonRecv p.stage .publisher parked
  have left := s.abandonRecv_broker p.stage .publisher parked
  unfold stepWaiting
  dsimp only
  split
  · refine .rests _ _ ?_ (by simp) ⟨leave.log _, left, rfl, grounded.symm, ⟨rfl, rfl, rfl, rfl⟩⟩
      ⟨rfl, rfl⟩
    simp [Happening.isRemark, Happening.isDeadline, Happening.dealing?]
  · split
    next seen =>
      exact .sees seen ⟨hs, rfl, rfl, rfl, ⟨rfl, rfl, rfl, rfl⟩⟩ rfl rfl
    · split
      next passed =>
        exact .givesUp _ passed grounded
          ⟨leave.log _, left, rfl, rfl, ⟨rfl, rfl, rfl, rfl⟩⟩ rfl rfl
      · split
        · have told := (leave.count (.brokerConnection s.broker.isConnected)).log
            (.publisherStats p.report.success p.report.failures p.report.dropped s.broker.isConnected)
          refine .rests _ _ ?_ ?_ ⟨told, ?_, rfl, grounded.symm, ⟨rfl, rfl, rfl, rfl⟩⟩
            ⟨rfl, rfl⟩
          · simp [Happening.isRemark, Happening.isDeadline, Happening.dealing?]
          · simp
          · rw [Scene.count_eq]
            exact left
        · have looked := s.receives p.stage .publisher parked
          generalize s.recv p.stage .publisher parked = look at looked
          rw [stage] at looked
          cases looked with
          | @item r rest buffer =>
            have fetched := (hs.setQueue .fanout (((s.queue .fanout).readerBack .publisher
              parked).itemTaken rest)).record (.taken .fanout r)
            exact publish_acts calm grounded fetched rfl ticker
          | ended buffer closed =>
            exact finish_acts grounded (hs.setQueue .fanout _) rfl
          | waits buffer opened =>
            exact .rests [] [] (by simp) (by simp) ⟨hs.setQueue .fanout _, rfl, rfl, grounded.symm,
              ⟨rfl, rfl, rfl, rfl⟩⟩ ⟨rfl, rfl⟩

theorem stepPublishing_acts {ticker : Ticker} {r : Reading} {pending : PendingPublish}
    (calm : pending.remainder.Calm) {started : Nat} {timeout : Option Nat}
    (phase : p.phase = .publishing ticker r pending started timeout) :
    p.Acts s (p.stepPublishing s ticker r pending started timeout).1
      (p.stepPublishing s ticker r pending started timeout).2 := by
  have flying : p.aloft? = some ⟨r, pending, started, timeout⟩ := by simp [aloft?, phase]
  have hs := Scene.Tells.refl s
  unfold stepPublishing
  split
  next rung =>
    obtain ⟨outcome, given⟩ := outcome_of_calm (Broker.finish_calm (b := s.broker) calm)
    obtain ⟨yields, same⟩ := conclude_yields (p := p) (hs.setBroker _) ticker r started given
    refine .lands _ _ _ _ _ flying (.answered rung given) yields same.1 ?_
    rw [if_neg (outcome_ne_dropped given)]
    exact same.2
  next silent =>
    rw [Bool.not_eq_true] at silent
    split
    next rung =>
      obtain ⟨yields, same⟩ := conclude_yields (p := p) hs ticker r started
        (a := .failed (.timeout p.publishTimeout)) rfl
      exact .lands _ _ _ _ _ flying (.timedOut silent rung) yields same.1 same.2
    next early =>
      rw [Bool.not_eq_true] at early
      split
      next seen =>
        exact .sees seen ⟨hs, rfl, rfl, rfl, ⟨rfl, rfl, rfl, rfl⟩⟩ rfl rfl
      · split
        next passed =>
          have yields := settle_yields (p := { p with abandoned := true })
            (hs.log (.deadlinePassedMidPublish r.producer)) ticker r .dropped
          obtain ⟨deadline, abandoned⟩ := settle_sameDeadline { p with abandoned := true }
            (s.log (.deadlinePassedMidPublish r.producer)) ticker r .dropped
          exact .lands _ _ _ _ _ flying (.cutOff silent early passed)
            ⟨yields.tells, yields.broker, yields.report, yields.aloft, ⟨rfl, rfl, rfl, rfl⟩⟩ deadline abandoned
        · exact .rests [] [] (by simp) (by simp)
            ⟨hs, rfl, rfl, rfl, ⟨rfl, rfl, rfl, rfl⟩⟩ ⟨rfl, rfl⟩

theorem step_acts (calm : s.broker.kind.Calm) (stage : p.stage = .fanout)
    (pending : ∀ f, p.aloft? = some f → f.pending.remainder.Calm) (live : p.ending? = none) :
    p.Acts s (p.step s).1 (p.step s).2 := by
  unfold step
  cases phase : p.phase with
  | created => exact start_acts phase
  | waiting ticker parked => exact stepWaiting_acts calm stage phase
  | publishing ticker r waits started timeout =>
    exact stepPublishing_acts (pending ⟨r, waits, started, timeout⟩ (by simp [aloft?, phase])) phase
  | ended e => simp [ending?, phase] at live

end Steps

end Publisher
end SensorFleet
