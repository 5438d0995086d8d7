import Mathlib.Data.List.Induction
import SensorFleet.Proofs.Fleet.Erasure
import SensorFleet.Proofs.Fleet.Progress

/-!
The publish path stays by itself. Up to the aggregator's end, an execution goes on without the
steps of the publisher, of its watcher and of the broker just as it does with them: what is left is
an execution of the same simulation without publishing, with the same traffic at the primary queue
at the same instants.
-/
namespace SensorFleet

def Config.unpublished (c : Config) : Config := { c with publishes := false }

/-- Whether it moves a reading through the primary queue or closes it. -/
def Happening.isTraffic : Happening → Bool
  | .entered .primary _ | .taken .primary _ | .notice (.queueClosed _) => true
  | _ => false

namespace Scene

/-- What happened at the primary queue, and when; latest first. -/
def traffic (s : Scene) : List Entry := s.journal.filter fun e => e.what.isTraffic

theorem traffic_bare (s : Scene) : s.bare.traffic = s.traffic := by
  have kept (w : Happening) : (w.isTraffic && !w.isPublishing) = w.isTraffic := by
    cases w with
    | notice n => cases n <;> rfl
    | entered stage r | taken stage r => cases stage <;> rfl
    | _ => rfl
  simp only [traffic, bare, List.filter_filter, kept]

theorem traffic_log {s : Scene} {n : Notice} (h : (Happening.notice n).isTraffic = false) :
    (s.log n).traffic = s.traffic := by
  simp [traffic, log, record, h]

end Scene

namespace Simulation

/-- Whether a cue is for neither the publisher nor its watcher nor the broker. -/
def Cue.isPrimary : Cue → Bool
  | .event .publisher | .event .watcher | .outside (.turn _) => false
  | _ => true

/-- The primary pipelines look alike: their queue and all its traffic so far, the slots with their
reports, and the aggregator but for what it forwards. -/
structure SamePrimary (m m' : Simulation) : Prop where
  queue : m'.scene.primary = m.scene.primary
  traffic : m'.scene.traffic = m.scene.traffic
  supervisors : m'.supervisors = m.supervisors
  slots : m'.coordinator.slots = m.coordinator.slots
  aggregator : m'.aggregator.bare = m.aggregator.bare

theorem SamePrimary.refl (m : Simulation) : m.SamePrimary m := ⟨rfl, rfl, rfl, rfl, rfl⟩

theorem SamePrimary.symm {m m' : Simulation} (h : m.SamePrimary m') : m'.SamePrimary m :=
  ⟨h.queue.symm, h.traffic.symm, h.supervisors.symm, h.slots.symm, h.aggregator.symm⟩

theorem SamePrimary.trans {m m' m'' : Simulation} (h : m.SamePrimary m')
    (h' : m'.SamePrimary m'') : m.SamePrimary m'' :=
  ⟨h'.queue.trans h.queue, h'.traffic.trans h.traffic, h'.supervisors.trans h.supervisors,
    h'.slots.trans h.slots, h'.aggregator.trans h.aggregator⟩

structure Mirrors (m₀ m : Simulation) : Prop where
  scene : m₀.scene.bare = m.scene.bare
  supervisors : m₀.supervisors = m.supervisors
  aggregator : m₀.aggregator.bare = m.aggregator.bare
  publisher : m₀.publisher = none
  coordinator : m₀.coordinator = m.coordinator

theorem mirrors_start {c : Config} {p : Equipment} {m : Simulation} (h : start c p = .ok m) :
    ∃ m₀, start c.unpublished p = .ok m₀ ∧ m₀.Mirrors m := by
  unfold start at h ⊢
  rw [show c.unpublished.capacity = c.capacity from rfl]
  cases made : ReadingQueue.ofCapacity c.capacity with
  | error e => simp [made, bind, Except.bind] at h
  | ok queue =>
    simp only [made, bind, Except.bind, pure, Except.pure, Except.ok.injEq] at h
    subst h
    refine ⟨_, rfl, ?_, rfl, rfl, rfl, rfl⟩
    dsimp only
    rw [Scene.bare_log_of_isPublishing _ rfl, Scene.bare_log_of_isPublishing _ rfl]
    rfl

theorem stepWatcher_bare (m : Simulation) (e : Ending PublisherReport) :
    (m.stepWatcher e).scene.bare = m.scene.bare := by
  simp only [stepWatcher]
  split
  · exact Scene.bare_log_of_isPublishing _ rfl
  · rfl

namespace Mirrors
variable {m₀ m : Simulation}

theorem now (h : m₀.Mirrors m) : m₀.scene.now = m.scene.now := (congrArg Scene.now h.scene :)

theorem cancelled (h : m₀.Mirrors m) : m₀.scene.cancelled = m.scene.cancelled :=
  (congrArg Scene.cancelled h.scene :)

theorem primary (h : m₀.Mirrors m) : m₀.scene.primary = m.scene.primary :=
  (congrArg Scene.primary h.scene :)

theorem samePrimary (h : m₀.Mirrors m) : m.SamePrimary m₀ where
  queue := h.primary
  traffic := by rw [← Scene.traffic_bare, h.scene, Scene.traffic_bare]
  supervisors := h.supervisors
  slots := by rw [h.coordinator]
  aggregator := h.aggregator

theorem of_scene (h : m₀.Mirrors m) {s₀ s : Scene} (scene : s₀.bare = s.bare) :
    ({ m₀ with scene := s₀ } : Simulation).Mirrors { m with scene := s } :=
  ⟨scene, h.supervisors, h.aggregator, h.publisher, h.coordinator⟩

/-- What the publish path does goes unseen. -/
theorem unseen (h : m₀.Mirrors m) {m' : Simulation} (scene : m'.scene.bare = m.scene.bare)
    (supervisors : m'.supervisors = m.supervisors) (aggregator : m'.aggregator = m.aggregator)
    (coordinator : m'.coordinator = m.coordinator) : m₀.Mirrors m' :=
  ⟨h.scene.trans scene.symm, h.supervisors.trans supervisors.symm, aggregator ▸ h.aggregator,
    h.publisher, h.coordinator.trans coordinator.symm⟩

theorem log (h : m₀.Mirrors m) {n : Notice} (hn : n.isPublishing = false) :
    (m₀.log n).Mirrors (m.log n) := by
  refine h.of_scene ?_
  rw [← Scene.log_bare _ hn, h.scene, Scene.log_bare _ hn]

theorem of_coordinator (h : m₀.Mirrors m) (f : Coordinator → Coordinator) :
    ({ m₀ with coordinator := f m₀.coordinator } : Simulation).Mirrors
      { m with coordinator := f m.coordinator } :=
  ⟨h.scene, h.supervisors, h.aggregator, h.publisher, congrArg f h.coordinator⟩

theorem moveTo (h : m₀.Mirrors m) (t : Nat) :
    (machine.moveTo m₀ t).Mirrors (machine.moveTo m t) :=
  h.of_scene (congrArg (fun s : Scene => { s with now := t }) h.scene)

theorem cancel (h : m₀.Mirrors m) : (m₀.apply .cancel).Mirrors (m.apply .cancel) :=
  h.of_scene (congrArg (fun s : Scene => { s with cancelled := true }) h.scene)

theorem shutdown (h : m₀.Mirrors m) (cause : ShutdownCause) :
    (m₀.shutdown cause).Mirrors (m.shutdown cause) := by
  have logged : (m₀.log cause.notice).Mirrors (m.log cause.notice) :=
    h.log (by cases cause <;> rfl)
  unfold Simulation.shutdown
  rw [show m₀.supervisors.size = m.supervisors.size by rw [h.supervisors]]
  exact logged.cancel.of_coordinator fun k => { k with phase := .joining m.supervisors.size }

theorem closeQueue (h : m₀.Mirrors m) : m₀.closeQueue.Mirrors m.closeQueue := by
  have closed : (m₀.scene.close .primary).2.bare = (m.scene.close .primary).2.bare :=
    congrArg (fun s : Scene => (s.close .primary).2) h.scene
  have shut := h.of_scene closed
  have last : (m₀.scene.close .primary).2.primary.length =
      (m.scene.close .primary).2.primary.length := congrArg Channel.length shut.primary
  have first : (m₀.scene.close .primary).1 = (m.scene.close .primary).1 := by
    simp only [Scene.close, Scene.queue, h.primary]
  unfold Simulation.closeQueue
  dsimp only
  rw [first, last]
  split
  · exact (shut.log rfl).of_coordinator fun k => { k with phase := .awaitingAggregator }
  · exact shut.of_coordinator fun k => { k with phase := .awaitingAggregator }

theorem fail (h : m₀.Mirrors m) (e : SimError) : (m₀.fail e).Mirrors (m.fail e) :=
  h.of_coordinator fun k => { k with failure := k.failure.or (some e) }

theorem replace (h : m₀.Mirrors m) (i : Nat) (t : Supervisor) :
    ({ m₀ with supervisors := m₀.supervisors.setIfInBounds i t } : Simulation).Mirrors
      { m with supervisors := m.supervisors.setIfInBounds i t } :=
  ⟨h.scene, by rw [h.supervisors], h.aggregator, h.publisher, h.coordinator⟩

theorem join (h : m₀.Mirrors m) {left : Nat} (phase : m.coordinator.phase = .joining left)
    {t : Supervisor} (ended : t.hasEnded = true) (i : Nat) : (m₀.join i t).Mirrors (m.join i t) := by
  obtain ⟨e, he⟩ := Option.isSome_iff_exists.mp ended
  have phase₀ : m₀.coordinator.phase = .joining left := by rw [h.coordinator, phase]
  have noted := (h.replace i { t with joined := true }).of_coordinator fun k =>
    { k with phase := .joining (left - 1) }
  unfold Simulation.join
  simp only [phase₀, phase, he]
  cases e with
  | returned result =>
    cases result with
    | ok report => exact noted.of_coordinator fun k => { k with slots := report :: k.slots }
    | error e => exact (noted.log rfl).fail _
  | crashed c => exact (noted.log rfl).fail _

theorem isReady (h : m₀.Mirrors m) (going : m.coordinator.phase.hasAggregator = false)
    {e : SimulationEvent} (own : (Cue.event e).isPrimary = true) : m₀.isReady e = m.isReady e := by
  cases e with
  | shutdown cause =>
    cases cause <;> simp only [Simulation.isReady, isCause, h.coordinator, h.now, h.cancelled]
  | coordinator =>
    simp only [Simulation.isReady, coordinatorReady, h.coordinator]
    cases phase : m.coordinator.phase with
    | awaitingAggregator =>
      dsimp only
      rw [← Aggregator.ending?_bare, h.aggregator, Aggregator.ending?_bare]
    | awaitingPublisher | ended r => simp [phase, CoordinatorPhase.hasAggregator] at going
    | running _ _ | joining left => rfl
  | publisher | watcher => cases own
  | aggregator =>
    change m₀.aggregator.isReady m₀.scene = m.aggregator.isReady m.scene
    rw [← Aggregator.isReady_bare m₀.aggregator, h.aggregator, h.scene, Aggregator.isReady_bare]
  | supervisor i => simp only [Simulation.isReady, h.supervisors]
  | run i =>
    simp only [Simulation.isReady, h.supervisors]
    congr 1
    funext t
    unfold Supervisor.isRunReady Station.isReady
    simp only [h.primary, h.cancelled, h.now]
  | join i => simp only [Simulation.isReady, canJoin, h.coordinator, h.supervisors]

theorem stepAggregator (h : m₀.Mirrors m) :
    (m₀.step .aggregator).Mirrors (m.step .aggregator) := by
  -- both take the step that the bare aggregator takes in the bare scene
  have taken := Aggregator.step_bare m.aggregator m.scene
  have taken₀ := Aggregator.step_bare m₀.aggregator m₀.scene
  rw [h.aggregator, h.scene] at taken₀
  exact ⟨taken₀.2.symm.trans taken.2, h.supervisors, taken₀.1.symm.trans taken.1, h.publisher,
    h.coordinator⟩

theorem replaceBy (h : m₀.Mirrors m) (i : Nat) {f : Scene → Supervisor × Scene}
    (decides : ∀ s, f s.bare = (f s).map id Scene.bare) :
    ({ m₀ with
      supervisors := m.supervisors.setIfInBounds i (f m₀.scene).1
      scene := (f m₀.scene).2 } : Simulation).Mirrors
      { m with
        supervisors := m.supervisors.setIfInBounds i (f m.scene).1
        scene := (f m.scene).2 } := by
  obtain ⟨same, scene⟩ := Scene.alike_of_bare decides h.scene
  exact ⟨scene, congrArg (m.supervisors.setIfInBounds i) same, h.aggregator, h.publisher,
    h.coordinator⟩

theorem stepSupervisor (h : m₀.Mirrors m) (i : Nat) :
    (m₀.step (.supervisor i)).Mirrors (m.step (.supervisor i)) := by
  simp only [Simulation.step, h.supervisors]
  cases m.supervisors[i]? with
  | none => exact h
  | some t => exact h.replaceBy i fun s => t.step_bare s

theorem stepRun (h : m₀.Mirrors m) (i : Nat) :
    (m₀.step (.run i)).Mirrors (m.step (.run i)) := by
  simp only [Simulation.step, h.supervisors]
  cases m.supervisors[i]? with
  | none => exact h
  | some t => exact h.replaceBy i fun s => t.stepRun_bare s (.slot i)

/-- A cue that is not for the publish path can be next without it as well, unless it is the one
with which the coordinator takes the aggregator's result. -/
theorem next (h : m₀.Mirrors m) {m' : Simulation} {cue : Cue} (own : cue.isPrimary = true)
    (step : m.next? cue = some m') (going : m.coordinator.phase.hasAggregator = false)
    (going' : m'.coordinator.phase.hasAggregator = false) :
    ∃ m₀', m₀.next? cue = some m₀' ∧ m₀'.Mirrors m' := by
  cases cue with
  | event e =>
    simp only [next?, Option.ite_none_right_eq_some, Option.some.injEq] at step
    obtain ⟨ready, rfl⟩ := step
    have ready₀ := (h.isReady going own).trans ready
    refine ⟨m₀.step e, by simp [next?, ready₀], ?_⟩
    cases e with
    | shutdown cause => exact h.shutdown cause
    | coordinator =>
      cases phase : m.coordinator.phase with
      | joining left =>
        simp only [Simulation.step, stepCoordinator, phase, h.coordinator]
        exact h.closeQueue
      | awaitingAggregator =>
        obtain ⟨e, he⟩ := Option.isSome_iff_exists.mp
          (show m.aggregator.ending?.isSome = true by
            simpa [Simulation.isReady, coordinatorReady, phase] using ready)
        have takes := (joinAggregator_takes m e).phase
        simp only [Simulation.step, stepCoordinator, phase, he, Option.elim_some] at going'
        split at takes
        · simp [takes, CoordinatorPhase.hasAggregator] at going'
        · obtain ⟨r, hr, _⟩ := takes
          simp [hr, CoordinatorPhase.hasAggregator] at going'
      | awaitingPublisher | ended r => simp [phase, CoordinatorPhase.hasAggregator] at going
      | running d i => simp [Simulation.isReady, coordinatorReady, phase] at ready
    | publisher | watcher => cases own
    | aggregator => exact h.stepAggregator
    | supervisor i => exact h.stepSupervisor i
    | run i => exact h.stepRun i
    | join i =>
      simp only [Simulation.isReady, canJoin] at ready
      cases phase : m.coordinator.phase with
      | joining left =>
        simp only [phase] at ready
        obtain ⟨t, found, ended⟩ := (Option.any_eq_true _ _).mp ready
        simp only [Bool.and_eq_true] at ended
        simp only [Simulation.step, h.supervisors, found]
        exact h.join phase ended.1 i
      | _ => simp [phase] at ready
  | time t =>
    simp only [next?, Option.ite_none_right_eq_some, Option.some.injEq] at step
    obtain ⟨later, rfl⟩ := step
    exact ⟨_, by simp [next?, h.now, later], h.moveTo t⟩
  | outside i =>
    simp only [next?, Option.some.injEq] at step
    subst step
    cases i with
    | cancel => exact ⟨_, rfl, h.cancel⟩
    | turn b => cases own

/-- A cue for the publish path goes unseen. -/
theorem next_unseen (h : m₀.Mirrors m) {m' : Simulation} {cue : Cue} (other : cue.isPrimary = false)
    (stage : ∀ q, m.publisher = some q → q.stage = .fanout) (step : m.next? cue = some m') :
    m₀.Mirrors m' := by
  cases cue with
  | event e =>
    simp only [next?, Option.ite_none_right_eq_some, Option.some.injEq] at step
    obtain ⟨ready, rfl⟩ := step
    cases e with
    | publisher =>
      obtain ⟨q, present, _⟩ := (Option.any_eq_true _ _).mp ready
      simp only [Simulation.step, present]
      exact h.unseen (q.step_bare m.scene (stage q present)) rfl rfl rfl
    | watcher =>
      simp only [Simulation.step]
      split
      · exact h.unseen (stepWatcher_bare m _) rfl rfl rfl
      · exact h
    | _ => cases other
  | time t => cases other
  | outside i =>
    simp only [next?, Option.some.injEq] at step
    subst step
    cases i with
    | cancel => cases other
    | turn b => exact h.unseen rfl rfl rfl rfl

theorem alarms (h : m₀.Mirrors m) : m₀.alarms ⊆ m.alarms := by
  have same : m₀.aggregator.alarms = m.aggregator.alarms := by
    rw [← Aggregator.alarms_bare, h.aggregator, Aggregator.alarms_bare]
  intro t ht
  simp only [Simulation.alarms, h.coordinator, same, h.publisher, h.supervisors, Option.elim_none,
    List.append_nil, List.mem_append] at ht ⊢
  tauto

/-- When nobody can go on, nobody can without the publish path. -/
theorem isIdle (h : m₀.Mirrors m) (going : m.coordinator.phase.hasAggregator = false)
    (idle : machine.isIdle m = true) : machine.isIdle m₀ = true := by
  refine List.all_eq_true.mpr fun e _ => ?_
  have stuck : m₀.isReady e = false := by
    cases e with
    | publisher | watcher => simp [Simulation.isReady, h.publisher]
    | _ => exact (h.isReady going rfl).trans (isReady_of_isIdle idle _)
  simp [machine, stuck]

end Mirrors

/-- Without the publish path, an execution is one of the simulation without publishing, as long as
the coordinator has not taken the aggregator's result. -/
theorem exists_mirror {c : Config} {p : Equipment} {cues : List Cue} {m : Simulation}
    (run : run? c p cues = some m) (going : m.coordinator.phase.hasAggregator = false) :
    ∃ m₀, run? c.unpublished p (cues.filter Cue.isPrimary) = some m₀ ∧ m₀.Mirrors m := by
  induction cues using List.reverseRecOn generalizing m with
  | nil =>
    obtain ⟨m₀, started, mirrors⟩ := mirrors_start (run_nil.mp run)
    exact ⟨m₀, run_nil.mpr started, mirrors⟩
  | append_singleton cues cue ih =>
    obtain ⟨m₁, before, step⟩ := run_append.mp run
    rw [follow_one] at step
    have going₁ : m₁.coordinator.phase.hasAggregator = false := by
      rw [Bool.eq_false_iff] at going ⊢
      exact fun taken => going ((turn_of_next step).hasAggregator taken)
    obtain ⟨m₀, before₀, mirrors⟩ := ih before going₁
    rw [List.filter_append]
    cases own : cue.isPrimary with
    | true =>
      obtain ⟨m₀', step₀, mirrors'⟩ := mirrors.next own step going₁ going
      rw [← follow_one] at step₀
      exact ⟨m₀', run_append.mpr ⟨m₀, before₀, by simpa [own] using step₀⟩, mirrors'⟩
    | false =>
      refine ⟨m₀, ?_, mirrors.next_unseen own (Reachable.of_run before).waits.stage step⟩
      simp [own, before₀]

theorem conclude_traffic (m : Simulation) : m.conclude.scene.traffic = m.scene.traffic := by
  unfold conclude
  split
  · rfl
  · change (Scene.log (if _ then _ else _) _).traffic = _
    rw [Scene.traffic_log rfl]
    split
    · rw [Scene.traffic_log rfl, Scene.traffic_log rfl]
      rfl
    · rw [Scene.traffic_log rfl]
      rfl

theorem closeBroker_traffic (m : Simulation) : m.closeBroker.scene.traffic = m.scene.traffic := by
  have closing (b : Broker) (error : Option PublishError) :
      (Scene.record { (if m.scene.broker.close.2.isScripted then m.scene
        else m.scene.log .brokerClosing) with broker := b } (.brokerClosed error)).traffic =
          m.scene.traffic := by
    split
    · rfl
    · exact Scene.traffic_log (s := m.scene) (n := .brokerClosing) rfl
  unfold closeBroker
  dsimp only
  split
  · exact (Scene.traffic_log rfl).trans (closing _ _)
  · exact closing _ _

theorem joinAggregator_samePrimary (m : Simulation) (e : Ending AggregatorReport) :
    m.SamePrimary (m.joinAggregator e) := by
  have takes := joinAggregator_takes m e
  have keeps := takes.keeps
  refine ⟨?_, ?_, keeps.supervisors, keeps.slots, by rw [keeps.aggregator]⟩
  · have alike := takes.scene
    split at alike <;> exact alike.primary
  · have handed (m₁ : Simulation) : (if m₁.publisher.isSome then
        ({ m₁ with scene := (m₁.scene.close .fanout).2 } : Simulation).enter .awaitingPublisher
        else m₁.conclude).scene.traffic = m₁.scene.traffic := by
      split
      · rfl
      · exact conclude_traffic m₁
    cases e with
    | returned n => exact handed _
    | crashed k => exact (handed _).trans (Scene.traffic_log rfl)

theorem joinPublisher_samePrimary (m : Simulation) (e : Ending PublisherReport) :
    m.SamePrimary (m.joinPublisher e) := by
  have takes := joinPublisher_takes m e
  have keeps := takes.keeps
  refine ⟨?_, ?_, keeps.supervisors, keeps.slots, by rw [keeps.aggregator]⟩
  · obtain ⟨b, alike⟩ := takes.scene
    exact alike.primary
  · unfold joinPublisher
    dsimp only
    rw [conclude_traffic, closeBroker_traffic]
    cases e with
    | returned q => rfl
    | crashed k => exact Scene.traffic_log rfl

theorem SamePrimary.of_bare {m m' : Simulation} (scene : m'.scene.bare = m.scene.bare)
    (supervisors : m'.supervisors = m.supervisors) (aggregator : m'.aggregator = m.aggregator)
    (coordinator : m'.coordinator = m.coordinator) : m.SamePrimary m' where
  queue := (congrArg Scene.primary scene :)
  traffic := by rw [← Scene.traffic_bare, scene, Scene.traffic_bare]
  supervisors := supervisors
  slots := by rw [coordinator]
  aggregator := by rw [aggregator]

/-- From then on the primary pipeline rests. -/
theorem Turn.samePrimary {c : Config} {p : Equipment} {m m' : Simulation} (turn : Turn m m')
    (h : Reachable c p m) (taken : m.coordinator.phase.hasAggregator = true) :
    m.SamePrimary m' := by
  have past : m.coordinator.phase.isPast = true := by
    revert taken
    cases m.coordinator.phase <;> simp [CoordinatorPhase.hasAggregator, CoordinatorPhase.isPast]
  cases turn with
  | shutdown cause phase => simp [phase, CoordinatorPhase.hasAggregator] at taken
  | closeQueue phase => simp [phase, CoordinatorPhase.hasAggregator] at taken
  | joinAggregator phase ended => exact joinAggregator_samePrimary m _
  | joinPublisher phase watched => exact joinPublisher_samePrimary m _
  | @publisher q present ready =>
    exact .of_bare (q.step_bare m.scene (h.waits.stage q present)) rfl rfl rfl
  | watcher unseen present ended => exact .of_bare (stepWatcher_bare m _) rfl rfl rfl
  | aggregator ready =>
    obtain ⟨e, ended⟩ := h.aggregator_ended taken
    simp [Aggregator.live_of_isReady ready] at ended
  | @supervisor i t found ready =>
    have live := Supervisor.not_hasEnded_of_isReady ready
    simp [h.ordered.ended past found] at live
  | @run i t station found phase ready =>
    have live := Supervisor.not_hasEnded_of_supervising phase
    simp [h.ordered.ended past found] at live
  | join phase found ended unjoined => simp [phase, CoordinatorPhase.hasAggregator] at taken
  | time | cancel | turn => exact ⟨rfl, rfl, rfl, rfl, rfl⟩

/-- An execution parts at the moment when the coordinator takes the aggregator's result. -/
theorem exists_parting {c : Config} {p : Equipment} {cues : List Cue} {m : Simulation}
    (run : run? c p cues = some m) :
    ∃ before after m₁, cues = before ++ after ∧ run? c p before = some m₁ ∧
      m₁.coordinator.phase.hasAggregator = false ∧ m₁.SamePrimary m ∧
      (after ≠ [] → m.coordinator.phase.hasAggregator = true) ∧
      (m.coordinator.phase.hasAggregator = true → m₁.aggregator.ending?.isSome = true) := by
  induction cues using List.reverseRecOn generalizing m with
  | nil =>
    obtain ⟨duration, interrupt, phase⟩ := (start_started (run_nil.mp run)).phase
    have going : m.coordinator.phase.hasAggregator = false := by
      simp [phase, CoordinatorPhase.hasAggregator]
    exact ⟨[], [], m, rfl, run, going, .refl m, fun h => absurd rfl h, by simp [going]⟩
  | append_singleton cues cue ih =>
    obtain ⟨m', prior, step⟩ := run_append.mp run
    rw [follow_one] at step
    have turn := turn_of_next step
    cases going : m.coordinator.phase.hasAggregator with
    | false =>
      exact ⟨cues ++ [cue], [], m, by simp, run, going, .refl m, fun h => absurd rfl h,
        fun taken => absurd taken Bool.false_ne_true⟩
    | true =>
      cases going' : m'.coordinator.phase.hasAggregator with
      | true =>
        obtain ⟨before, after, m₁, hc, run₁, going₁, same, _, ended⟩ := ih prior
        exact ⟨before, after ++ [cue], m₁, by rw [hc, List.append_assoc], run₁, going₁,
          same.trans (turn.samePrimary (.of_run prior) going'), fun _ => rfl,
          fun _ => ended going'⟩
      | false =>
        obtain ⟨e, he, hm⟩ := turn.takesAggregator going' going
        exact ⟨cues, [cue], m', rfl, prior, going', hm ▸ joinAggregator_samePrimary m' e,
          fun _ => rfl, fun _ => by rw [he]; rfl⟩

/-- Take any execution and leave out the cues for the publisher, its watcher and the broker. At
every point of it up to the aggregator's end, what is left is an execution of the same simulation
without publishing, in which the primary pipeline looks the same: its queue, what entered and left
the queue and when it was closed, the slots and their reports, and the aggregator with the instant
of its end. It is the same instant there; and where nobody can go on and time may pass, it may pass
there as well, with no alarm that is not set here. When the coordinator goes on to the publisher,
the aggregator has ended, and the primary pipeline stays as it is. -/
theorem publish_path_isolated {c : Config} {p : Equipment} {cues : List Cue} {m : Simulation}
    (run : run? c p cues = some m) :
    ∃ before after, cues = before ++ after ∧
      (∀ first, first <+: before → ∃ m₁ m₀, run? c p first = some m₁ ∧
        run? c.unpublished p (first.filter Cue.isPrimary) = some m₀ ∧
        m₁.SamePrimary m₀ ∧ m₀.scene.now = m₁.scene.now ∧
        (machine.isIdle m₁ = true → machine.isIdle m₀ = true) ∧ m₀.alarms ⊆ m₁.alarms) ∧
      ∃ m₁, run? c p before = some m₁ ∧ m₁.SamePrimary m ∧
        (after ≠ [] → m₁.aggregator.ending?.isSome = true) := by
  obtain ⟨before, after, m', hc, run', going', same, later, ended⟩ := exists_parting run
  refine ⟨before, after, hc, ?_, m', run', same, fun h => ended (later h)⟩
  rintro first ⟨rest, rfl⟩
  obtain ⟨m₁, run₁, hr⟩ := run_append.mp run'
  have going₁ : m₁.coordinator.phase.hasAggregator = false := by
    rw [Bool.eq_false_iff] at going' ⊢
    intro taken
    exact going' ((Reachable.of_run run₁).keeps hr taken fun _ turn => turn.hasAggregator)
  obtain ⟨m₀, run₀, mirrors⟩ := exists_mirror run₁ going₁
  exact ⟨m₁, m₀, run₁, run₀, mirrors.samePrimary, mirrors.now, mirrors.isIdle going₁,
    mirrors.alarms⟩

/-- One reading enters the queue, is taken and waits for a slow broker, while the queue is closed and
the aggregator returns, with and without the broker. -/
theorem isolated_from_a_slow_broker :
    ∃ (c : Config) (p : Equipment) (cues before : List Cue) (m m₀ : Simulation),
      c.publishes = true ∧ run? c p cues = some m ∧
      m.coordinator.phase = .awaitingPublisher ∧ m.scene.traffic.length = 3 ∧
      before <+: cues ∧ run? c.unpublished p (before.filter Cue.isPrimary) = some m₀ ∧
      m.SamePrimary m₀ := by
  let c : Config := { producers := 1, capacity := 1, publishes := true }
  let p : Equipment :=
    { clock := .fixed default, sources := fun _ _ _ => .source fun _ => .value default
      broker := some { kind := .recording, delay := 10000 } }
  let cues : List Cue := [.event .publisher, .event .aggregator, .event (.supervisor 0),
    .event (.run 0), .time 100000000, .event (.run 0), .event .aggregator, .event .publisher,
    .outside .cancel, .event (.shutdown .cancellation), .event (.run 0), .event (.supervisor 0),
    .event (.join 0), .event .coordinator, .event .aggregator, .event .aggregator,
    .event .coordinator, .event .publisher]
  let waits (m : Simulation) : Bool :=
    (match m.coordinator.phase with
      | .awaitingPublisher => true
      | _ => false) && decide (m.scene.traffic.length = 3)
  have run : (run? c p cues).any waits = true := by decide
  obtain ⟨m, run, waiting⟩ := (Option.any_eq_true _ _).mp run
  simp only [waits, Bool.and_eq_true, decide_eq_true_eq] at waiting
  obtain ⟨waiting, traffic⟩ := waiting
  cases phase : m.coordinator.phase with
  | awaitingPublisher =>
    obtain ⟨before, after, hc, mirrored, m₁, run₁, same, _⟩ := publish_path_isolated run
    obtain ⟨m₂, m₀, run₂, run₀, same₀, _⟩ := mirrored before (List.prefix_refl before)
    rw [run₁, Option.some.injEq] at run₂
    subst run₂
    refine ⟨c, p, cues, before, m, m₀, rfl, run, phase, traffic, ⟨after, hc.symm⟩, run₀, ?_⟩
    exact same.symm.trans same₀
  | _ => simp [phase] at waiting

end Simulation
end SensorFleet
