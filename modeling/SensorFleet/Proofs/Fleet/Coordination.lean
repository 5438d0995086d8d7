import SensorFleet.Proofs.Fleet.Execution

/-!
What the steps of the coordinator and of the watcher come to. They leave the tasks alone: they take
the results of those that ended, close the queues one after the other and make the report.
-/
namespace SensorFleet

def Coordinator.Reports (c : Coordinator) (late : Nat) (report : SimReport) : Prop :=
  c.failure = none ∧ ∃ (finishedAt : WallTime) (queue : ReadingQueue), queue.late = late ∧
    report = (SimReport.ofParts c.runId c.startedAt finishedAt c.slots.reverse c.aggregated
      c.published).withQueue queue

namespace Simulation

structure Started (c : Config) (p : Equipment) (m : Simulation) : Prop where
  supervisors : m.supervisors = supervisorsOf c
  aggregator : m.aggregator = aggregatorOf c
  publisher : m.publisher = publisherOf c
  watched : m.watched = none
  phase : ∃ duration interrupt, m.coordinator.phase = .running duration interrupt
  slots : m.coordinator.slots = []
  published : m.coordinator.published = none
  primary : m.scene.primary = Channel.new c.capacity
  fanout : m.scene.fanout = Channel.new c.capacity
  counts : m.scene.counts = p.counts
  outcomes : ∀ id, m.scene.metrics.outcomes id = 0
  marks : m.scene.marks = []

theorem start_started {c : Config} {p : Equipment} {m : Simulation} (h : start c p = .ok m) :
    Started c p m := by
  unfold start ReadingQueue.ofCapacity at h
  split at h
  · cases h
  · injection h with h
    subst h
    exact ⟨rfl, rfl, rfl, rfl, ⟨_, _, rfl⟩, rfl, rfl, rfl, rfl, rfl, fun _ => rfl, rfl⟩

theorem start_scene {c : Config} {p : Equipment} {m : Simulation} (h : start c p = .ok m) :
    m.scene = (sceneOf p (Channel.new c.capacity)).readClock.2.readClock.2.log
      (.simulationStarted c.producers (Duration.millis c.interval % UInt64.size) c.capacity
        (Duration.seconds c.duration) c.publishes) := by
  unfold start ReadingQueue.ofCapacity at h
  split at h
  · cases h
  · injection h with h
    subst h
    rfl

theorem Started.publisher_created {c : Config} {p : Equipment} {m : Simulation} (h : Started c p m)
    {q : Publisher} (present : m.publisher = some q) :
    q.stage = .fanout ∧ q.phase = .created ∧ q.report = {} := by
  rw [h.publisher, publisherOf] at present
  split at present
  · injection present with present
    exact present ▸ ⟨rfl, rfl, rfl⟩
  · cases present

structure Keeps (m m' : Simulation) : Prop where
  supervisors : m'.supervisors = m.supervisors
  aggregator : m'.aggregator = m.aggregator
  publisher : m'.publisher = m.publisher
  watched : m'.watched = m.watched
  slots : m'.coordinator.slots = m.coordinator.slots

theorem Keeps.trans {m m' m'' : Simulation} (h : m.Keeps m') (h' : m'.Keeps m'') : m.Keeps m'' :=
  ⟨h'.supervisors.trans h.supervisors, h'.aggregator.trans h.aggregator,
    h'.publisher.trans h.publisher, h'.watched.trans h.watched, h'.slots.trans h.slots⟩

structure Ends (m m' : Simulation) : Prop where
  keeps : m.Keeps m'
  alike : m.scene.Alike m'.scene
  failure : m'.coordinator.failure = m.coordinator.failure
  aggregated : m'.coordinator.aggregated = m.coordinator.aggregated
  published : m'.coordinator.published = m.coordinator.published
  result : ∃ r, m'.coordinator.phase = .ended r ∧
    ∀ report, r = .ok report → m'.coordinator.Reports m.scene.primary.late report

theorem conclude_ends (m : Simulation) : m.Ends m.conclude := by
  unfold conclude
  cases hf : m.coordinator.failure with
  | some e => exact ⟨⟨rfl, rfl, rfl, rfl, rfl⟩, .refl _, rfl, rfl, rfl, _, rfl, by simp⟩
  | none =>
    generalize hr : (SimReport.ofParts m.coordinator.runId m.coordinator.startedAt
      m.scene.readClock.1 m.coordinator.slots.reverse m.coordinator.aggregated
      m.coordinator.published).withQueue m.scene.readClock.2.primary = report
    have alike : m.scene.Alike ((if 0 < report.lateSends then
        (m.scene.readClock.2.log (.queueStats report.queueHighWater)).log (.lateSends report.lateSends)
        else m.scene.readClock.2.log (.queueStats report.queueHighWater)).log
          (.endedGracefully report.sent report.received report.restarts report.dropped)) := by
      refine Scene.Alike.trans ?_ (Scene.alike_log rfl)
      have hs : m.scene.Alike (m.scene.readClock.2.log (.queueStats report.queueHighWater)) :=
        (Scene.alike_readClock _).trans (Scene.alike_log rfl)
      split
      · exact hs.trans (Scene.alike_log rfl)
      · exact hs
    dsimp only
    rw [hr]
    refine ⟨⟨rfl, rfl, rfl, rfl, rfl⟩, alike, rfl, rfl, rfl, _, rfl, ?_⟩
    intro report' he
    injection he with he
    subst he
    exact ⟨hf, _, m.scene.primary, rfl, hr.symm⟩

/-- The aggregator's result is taken. The fan-out is then closed if there is a publisher, and
otherwise the coordinator ends. -/
structure TakesAggregator (m : Simulation) (e : Ending AggregatorReport) (m' : Simulation) :
    Prop where
  keeps : m.Keeps m'
  scene : (if m.publisher.isSome then (m.scene.close .fanout).2 else m.scene).Alike m'.scene
  published : m'.coordinator.published = m.coordinator.published
  failure : m'.coordinator.failure = none →
    m.coordinator.failure = none ∧ e = .returned m'.coordinator.aggregated
  phase : if m.publisher.isSome then m'.coordinator.phase = .awaitingPublisher
    else ∃ r, m'.coordinator.phase = .ended r ∧
      ∀ report, r = .ok report → m'.coordinator.Reports m.scene.primary.late report

theorem fail_failure (m : Simulation) (e : SimError) : (m.fail e).coordinator.failure ≠ none := by
  cases h : m.coordinator.failure <;> simp [fail, h]

theorem joinAggregator_takes (m : Simulation) (e : Ending AggregatorReport) :
    m.TakesAggregator e (m.joinAggregator e) := by
  -- the result is noted first, which is all that distinguishes a return from a crash
  have noted : ∃ m₁ : Simulation, m.Keeps m₁ ∧ m.scene.Alike m₁.scene ∧
      m₁.coordinator.published = m.coordinator.published ∧
      (m₁.coordinator.failure = none →
        m.coordinator.failure = none ∧ e = .returned m₁.coordinator.aggregated) ∧
      m.joinAggregator e = if m₁.publisher.isSome then
        ({ m₁ with scene := (m₁.scene.close .fanout).2 } : Simulation).enter .awaitingPublisher
        else m₁.conclude := by
    cases e with
    | returned r =>
      exact ⟨{ m with coordinator := { m.coordinator with aggregated := r } },
        ⟨rfl, rfl, rfl, rfl, rfl⟩, .refl _, rfl, fun h => ⟨h, rfl⟩, rfl⟩
    | crashed c =>
      exact ⟨(m.log (.aggregatorTaskFailed c)).failTask c, ⟨rfl, rfl, rfl, rfl, rfl⟩,
        Scene.alike_log rfl, rfl, fun h => absurd h (fail_failure _ _), rfl⟩
  obtain ⟨m₁, keeps, alike, published, failure, he⟩ := noted
  rw [he]
  cases hp : m.publisher with
  | some p =>
    have present : m₁.publisher.isSome = true := by rw [keeps.publisher, hp]; rfl
    rw [if_pos present]
    have close : (m.scene.close .fanout).2.Alike (m₁.scene.close .fanout).2 := by
      have hq : m₁.scene.queue .fanout = m.scene.queue .fanout := alike.fanout
      simp only [Scene.close, hq]
      exact alike.setQueue .fanout _
    refine ⟨keeps.trans ⟨rfl, rfl, rfl, rfl, rfl⟩, ?_, published, failure, ?_⟩
    · rw [if_pos (by simp [hp])]
      exact close
    · simp [hp, enter]
  | none =>
    have absent : ¬m₁.publisher.isSome = true := by simp [keeps.publisher, hp]
    rw [if_neg absent]
    have ends := conclude_ends m₁
    refine ⟨keeps.trans ends.keeps, ?_, ends.published.trans published, ?_, ?_⟩
    · simpa [hp] using alike.trans ends.alike
    · rw [ends.failure, ends.aggregated]
      exact failure
    · simpa [hp, alike.primary] using ends.result

structure TakesPublisher (m : Simulation) (e : Ending PublisherReport) (m' : Simulation) :
    Prop where
  keeps : m.Keeps m'
  scene : ∃ b, ({ m.scene with broker := b } : Scene).Alike m'.scene
  failure : m'.coordinator.failure = m.coordinator.failure
  aggregated : m'.coordinator.aggregated = m.coordinator.aggregated
  published : ∀ q, m'.coordinator.published = some q →
    e = .returned q ∨ m.coordinator.published = some q
  returned : ∀ q, e = .returned q → m'.coordinator.published = some q
  phase : ∃ r, m'.coordinator.phase = .ended r ∧
    ∀ report, r = .ok report → m'.coordinator.Reports m.scene.primary.late report

theorem closeBroker_scene (m : Simulation) :
    ∃ b s, m.closeBroker = { m with scene := s } ∧
      ({ m.scene with broker := b } : Scene).Alike s := by
  unfold closeBroker
  generalize m.scene.broker.close = closed
  obtain ⟨error, b⟩ := closed
  have hs : ({ m.scene with broker := b } : Scene).Alike (Scene.record
      { (if b.isScripted then m.scene else m.scene.log .brokerClosing) with broker := b }
      (.brokerClosed error)) := by
    refine Scene.Alike.trans ?_ (Scene.alike_record rfl)
    split
    · exact .refl _
    · exact (Scene.alike_log rfl).setBroker b
  cases error with
  | none => exact ⟨b, _, rfl, hs⟩
  | some e => exact ⟨b, _, rfl, hs.trans (Scene.alike_log rfl)⟩

theorem joinPublisher_takes (m : Simulation) (e : Ending PublisherReport) :
    m.TakesPublisher e (m.joinPublisher e) := by
  have close (m₁ : Simulation) (keeps : m.Keeps m₁) (alike : m.scene.Alike m₁.scene)
      (failure : m₁.coordinator.failure = m.coordinator.failure)
      (aggregated : m₁.coordinator.aggregated = m.coordinator.aggregated)
      (published : ∀ q, m₁.coordinator.published = some q →
        e = .returned q ∨ m.coordinator.published = some q)
      (returned : ∀ q, e = .returned q → m₁.coordinator.published = some q) :
      m.TakesPublisher e m₁.closeBroker.conclude := by
    obtain ⟨b, s, hb, hs⟩ := closeBroker_scene m₁
    have ends := conclude_ends m₁.closeBroker
    rw [hb] at ends ⊢
    have late : s.primary.late = m.scene.primary.late := by rw [hs.primary, ← alike.primary]
    have result := ends.result
    simp only [late] at result
    have all := ((alike.setBroker b).trans hs).trans ends.alike
    refine ⟨keeps.trans (Keeps.trans ?_ ends.keeps), ⟨b, all⟩, ends.failure.trans failure,
      ends.aggregated.trans aggregated, ?_, ?_, result⟩
    · exact ⟨rfl, rfl, rfl, rfl, rfl⟩
    · rw [ends.published]
      exact published
    · rw [ends.published]
      exact returned
  cases e with
  | returned q =>
    refine close { m with coordinator := { m.coordinator with published := some q } }
      ⟨rfl, rfl, rfl, rfl, rfl⟩ (.refl _) rfl rfl ?_ ?_
    · intro q' hq
      injection hq with hq
      exact .inl (congrArg _ hq)
    · intro q' hq
      injection hq with hq
      exact congrArg _ hq
  | crashed c =>
    exact close (m.log (.publisherTaskFailed c)) ⟨rfl, rfl, rfl, rfl, rfl⟩ (Scene.alike_log rfl) rfl
      rfl (fun q hq => .inr hq) (by simp)

structure Joins (m : Simulation) (i : Nat) (t : Supervisor) (left : Nat) (m' : Simulation) :
    Prop where
  supervisors : m'.supervisors = m.supervisors.setIfInBounds i { t with joined := true }
  aggregator : m'.aggregator = m.aggregator
  publisher : m'.publisher = m.publisher
  watched : m'.watched = m.watched
  alike : m.scene.Alike m'.scene
  phase : m'.coordinator.phase = .joining (left - 1)
  published : m'.coordinator.published = m.coordinator.published
  entry : (∃ report, t.phase = .ended (.returned (.ok report)) ∧
      m'.coordinator.slots = report :: m.coordinator.slots ∧
      m'.coordinator.failure = m.coordinator.failure) ∨
    (m'.coordinator.slots = m.coordinator.slots ∧ m'.coordinator.failure ≠ none)

theorem join_joins {m : Simulation} {t : Supervisor} {left : Nat}
    (phase : m.coordinator.phase = .joining left) (ended : t.hasEnded = true) (i : Nat) :
    m.Joins i t left (m.join i t) := by
  obtain ⟨e, he⟩ := Option.isSome_iff_exists.mp ended
  have hp := Supervisor.phase_of_ending he
  unfold join
  simp only [phase, he]
  cases e with
  | returned result =>
    cases result with
    | ok report =>
      exact ⟨rfl, rfl, rfl, rfl, .refl _, rfl, rfl, .inl ⟨report, hp, rfl, rfl⟩⟩
    | error e =>
      exact ⟨rfl, rfl, rfl, rfl, Scene.alike_log rfl, rfl, rfl, .inr ⟨rfl, fail_failure _ _⟩⟩
  | crashed c =>
    exact ⟨rfl, rfl, rfl, rfl, Scene.alike_log rfl, rfl, rfl, .inr ⟨rfl, fail_failure _ _⟩⟩

theorem closeQueue_eq {m : Simulation} (h : m.scene.primary.isClosed = false) :
    m.closeQueue = ({ m with
      scene := (m.scene.setQueue .primary m.scene.primary.close).log
        (.queueClosed m.scene.primary.length) } : Simulation).enter .awaitingAggregator := by
  simp [closeQueue, Scene.close, Scene.queue, h, Scene.setQueue, Channel.length, Channel.close]

theorem stepWatcher_alike (m : Simulation) (e : Ending PublisherReport) :
    (m.scene.close .fanout).2.Alike (m.stepWatcher e).scene := by
  unfold stepWatcher
  dsimp only
  split
  · exact Scene.alike_log rfl
  · exact .refl _

theorem shutdown_alike (m : Simulation) (cause : ShutdownCause) :
    ({ m.scene with cancelled := true } : Scene).Alike (m.shutdown cause).scene :=
  ⟨rfl, rfl, rfl, rfl, rfl, rfl, fun _ => rfl,
    Scene.marks_record_of_isAside (s := m.scene) (by cases cause <;> rfl)⟩

end Simulation
end SensorFleet
