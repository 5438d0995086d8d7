import SensorFleet.Proofs.Fleet.Rundown

/-!
What becomes of a run that has lost its aggregator. A producer that waits for room waits for ever,
and the run with it. If nobody waits when the run is cancelled, the barrier of the supervisors is
passed, the queue is closed, and the run fails.
-/
namespace SensorFleet

namespace CoordinatorPhase

def stepsLeft : CoordinatorPhase → Nat
  | .running _ _ => 4
  | .joining _ => 3
  | .awaitingAggregator => 2
  | .awaitingPublisher => 1
  | .ended _ => 0

end CoordinatorPhase

namespace Simulation

def slotsLeft (m : Simulation) : Nat := (m.supervisors.toList.map Supervisor.stepsLeft).sum

def publisherLeft (m : Simulation) : Nat := m.publisher.elim 0 fun q => q.stepsLeft m.scene

/-- How many steps are left after the cancellation, if the aggregator has crashed and no producer
waits for room. Those of the coordinator count twice, since it may have the publisher look at its
queue once more. -/
def stepsLeft (m : Simulation) : Nat :=
  2 * m.coordinator.phase.stepsLeft + (if m.watched.isNone then 1 else 0) + m.slotsLeft +
    m.publisherLeft

theorem slotsLeft_set {m m' : Simulation} {i : Nat} {t t' : Supervisor}
    (found : m.supervisors[i]? = some t)
    (supervisors : m'.supervisors = m.supervisors.setIfInBounds i t') :
    m'.slotsLeft + t.stepsLeft = m.slotsLeft + t'.stepsLeft := by
  unfold slotsLeft
  rw [supervisors, Array.toList_setIfInBounds]
  exact sum_map_set Supervisor.stepsLeft (by simpa using found) t'

theorem slotsLeft_congr {m m' : Simulation} (h : m'.supervisors = m.supervisors) :
    m'.slotsLeft = m.slotsLeft := by
  unfold slotsLeft
  rw [h]

theorem publisherLeft_congr {m m' : Simulation} (waits : Waits m)
    (publisher : m'.publisher = m.publisher) (now : m'.scene.now = m.scene.now)
    (fanout : m'.scene.fanout = m.scene.fanout) : m'.publisherLeft = m.publisherLeft := by
  unfold publisherLeft
  rw [publisher]
  cases present : m.publisher with
  | none => rfl
  | some q =>
    refine Publisher.stepsLeft_congr now ?_
    rw [waits.stage q present]
    exact fanout

theorem publisherLeft_le {m m' : Simulation} (publisher : m'.publisher = m.publisher)
    (now : m'.scene.now = m.scene.now) : m'.publisherLeft ≤ m.publisherLeft + 1 := by
  unfold publisherLeft
  rw [publisher]
  cases m.publisher with
  | none => exact Nat.zero_le _
  | some q => exact Publisher.stepsLeft_le now

/-- The coordinator goes on, at the cost of one more look of the publisher at most. -/
theorem stepsLeft_lt_of_phase {m m' : Simulation} (supervisors : m'.supervisors = m.supervisors)
    (watched : m'.watched = m.watched) (publisher : m'.publisher = m.publisher)
    (now : m'.scene.now = m.scene.now)
    (phase : m'.coordinator.phase.stepsLeft < m.coordinator.phase.stepsLeft) :
    m'.stepsLeft < m.stepsLeft := by
  have slots := slotsLeft_congr supervisors
  have looks := publisherLeft_le publisher now
  unfold stepsLeft
  rw [watched, slots]
  omega

theorem Turn.ticks {m m' : Simulation} (turn : Turn m m')
    (h : ∀ q, m.publisher = some q → q.Ticks) : ∀ q, m'.publisher = some q → q.Ticks := by
  cases turn with
  | joinAggregator phase ended => rwa [(joinAggregator_takes m _).keeps.publisher]
  | joinPublisher phase watched => rwa [(joinPublisher_takes m _).keeps.publisher]
  | @publisher q present ready =>
    intro q' hq
    injection hq with hq
    exact hq ▸ Publisher.step_ticks (h q present)
  | @join i left t phase found ended unjoined => rwa [(join_joins phase ended i).publisher]
  | _ => exact h

theorem Reachable.ticks {c : Config} {p : Equipment} {m : Simulation} (h : Reachable c p m) :
    ∀ q, m.publisher = some q → q.Ticks := by
  refine h.invariant (fun started q present => ?_) fun _ turn hm => turn.ticks hm
  obtain ⟨_, created, _⟩ := (start_started started).publisher_created present
  intro ticker hk
  simp [Publisher.ticker?, created] at hk

theorem Turn.cancelled {c : Config} {m m' : Simulation} (turn : Turn m m') (staffed : Staffed c m)
    (ordered : Ordered m) (h : m.scene.cancelled = true) : m'.scene.cancelled = true := by
  cases turn with
  | shutdown cause phase | cancel => rfl
  | closeQueue phase =>
    rw [closeQueue_eq (ordered.opened_of_joining phase)]
    exact h
  | @joinAggregator e phase ended =>
    have alike := (joinAggregator_takes m e).scene
    split at alike <;> exact alike.cancelled.trans h
  | @joinPublisher e phase watched =>
    obtain ⟨b, alike⟩ := (joinPublisher_takes m e).scene
    exact alike.cancelled.trans h
  | publisher present ready => exact (Publisher.step_moves _ _ ready).steady.cancelled.trans h
  | watcher unseen present ended => exact (stepWatcher_alike m _).cancelled.trans h
  | aggregator ready => exact (Aggregator.step_moves _ _ ready).steady.cancelled.trans h
  | @supervisor i t found ready =>
    exact (Supervisor.step_passes (staffed.member i t found).1 m.scene ready).alike.cancelled.trans h
  | @run i t station found phase ready =>
    have moves := Supervisor.stepRun_moves (staffed.member i t found).1 phase ready
    have opened := ordered.opened found (Supervisor.not_hasEnded_of_supervising phase)
    rw [Supervisor.stepRun_eq phase]
    exact (moves.steady opened).cancelled.trans h
  | @join i left t phase found ended unjoined =>
    exact (join_joins phase ended i).alike.cancelled.trans h
  | time | turn => exact h

/-- After the cancellation nobody begins to wait for room. -/
theorem Turn.unheld {c : Config} {m m' : Simulation} (turn : Turn m m') (staffed : Staffed c m)
    (cancelled : m.scene.cancelled = true)
    (h : ∀ (i : Nat) t, m.supervisors[i]? = some t → t.pending? = none) :
    ∀ (i : Nat) t, m'.supervisors[i]? = some t → t.pending? = none := by
  refine turn.each h fun {i t t'} found turns => ?_
  have unheld := h i t found
  cases turns with
  | steps ready => exact (Supervisor.step_passes (staffed.member i t found).1 _ ready).pending
  | @runs station phase ready =>
    rw [Supervisor.stepRun_eq phase]
    refine (Station.step_left ready ?_ cancelled).2
    simpa [Supervisor.pending?, phase] using unheld
  | joins ended unjoined => exact unheld

structure RunsDown (c : Config) (p : Equipment) (m : Simulation) : Prop where
  reachable : Reachable c p m
  crashed : ∃ e, m.aggregator.ending? = some (.crashed e)
  cancelled : m.scene.cancelled = true
  unheld : ∀ (i : Nat) t, m.supervisors[i]? = some t → t.pending? = none

namespace RunsDown
variable {c : Config} {p : Equipment} {m : Simulation}

theorem next (h : RunsDown c p m) {m' : Simulation} {cue : Cue} (step : m.next? cue = some m') :
    RunsDown c p m' := by
  have turn := turn_of_next step
  have staffed := h.reachable.staffed
  obtain ⟨e, crashed⟩ := h.crashed
  exact ⟨h.reachable.next cue step, ⟨e, turn.crashed crashed⟩,
    turn.cancelled staffed h.reachable.ordered h.cancelled, turn.unheld staffed h.cancelled h.unheld⟩

theorem unread (h : RunsDown c p m) : Unread m := by
  obtain ⟨e, crashed⟩ := h.crashed
  exact h.reachable.unread (Aggregator.isUnused_of_crashed crashed)

theorem left_shutdown {cause : ShutdownCause} (ready : m.isCause cause = true) :
    (m.shutdown cause).stepsLeft < m.stepsLeft := by
  refine stepsLeft_lt_of_phase rfl rfl rfl rfl ?_
  cases phase : m.coordinator.phase with
  | running d i => exact Nat.lt_succ_self 3
  | _ => cases cause <;> simp [isCause, phase] at ready

theorem left_closeQueue (h : RunsDown c p m) {left : Nat}
    (phase : m.coordinator.phase = .joining left) : m.closeQueue.stepsLeft < m.stepsLeft := by
  rw [closeQueue_eq (h.reachable.ordered.opened_of_joining phase)]
  refine stepsLeft_lt_of_phase rfl rfl rfl rfl ?_
  rw [phase]
  exact Nat.lt_succ_self 2

theorem left_joinAggregator (phase : m.coordinator.phase = .awaitingAggregator)
    (e : Ending AggregatorReport) : (m.joinAggregator e).stepsLeft < m.stepsLeft := by
  have takes := joinAggregator_takes m e
  have keeps := takes.keeps
  have now : (m.joinAggregator e).scene.now = m.scene.now := by
    have alike := takes.scene
    split at alike <;> exact alike.now
  refine stepsLeft_lt_of_phase keeps.supervisors keeps.watched keeps.publisher now ?_
  have later := takes.phase
  rw [phase]
  split at later
  · rw [later]
    exact Nat.lt_succ_self 1
  · obtain ⟨r, hr, _⟩ := later
    rw [hr]
    exact Nat.two_pos

theorem left_joinPublisher (phase : m.coordinator.phase = .awaitingPublisher)
    (e : Ending PublisherReport) : (m.joinPublisher e).stepsLeft < m.stepsLeft := by
  have takes := joinPublisher_takes m e
  have keeps := takes.keeps
  obtain ⟨b, alike⟩ := takes.scene
  refine stepsLeft_lt_of_phase keeps.supervisors keeps.watched keeps.publisher alike.now ?_
  obtain ⟨r, hr, _⟩ := takes.phase
  rw [phase, hr]
  exact Nat.one_pos

theorem left_publisher (h : RunsDown c p m) {q : Publisher} (present : m.publisher = some q)
    (ready : q.isReady m.scene = true) :
    stepsLeft { m with publisher := some (q.step m.scene).1, scene := (q.step m.scene).2 } <
      m.stepsLeft := by
  have stage := h.reachable.waits.stage q present
  have unread := h.unread
  have attended := h.reachable.waits.attended.fanout
  have left : (q.step m.scene).1.stepsLeft (q.step m.scene).2 < q.stepsLeft m.scene := by
    refine Publisher.step_left (h.reachable.ticks q present) ready (unread.idle q present) ?_ ?_
    · rw [stage]
      exact unread.empty
    · intro awake
      rw [stage, Bool.eq_false_iff]
      intro woken
      have waits := (attended.readers.mem .publisher).mp (Signal.mem_waiting.mpr (.inr woken))
      simp [Party.reads, present, awake] at waits
  have before : m.publisherLeft = q.stepsLeft m.scene := by rw [publisherLeft, present]; rfl
  unfold stepsLeft
  rw [before]
  exact Nat.add_lt_add_left left _

theorem left_watcher {q : Publisher} {e : Ending PublisherReport} (unseen : m.watched = none)
    (present : m.publisher = some q) (ended : q.ending? = some e) :
    (m.stepWatcher e).stepsLeft < m.stepsLeft := by
  have slots : (m.stepWatcher e).slotsLeft = m.slotsLeft := slotsLeft_congr rfl
  have publisher : (m.stepWatcher e).publisherLeft = 0 := by
    change m.publisher.elim 0 _ = 0
    rw [present]
    exact Publisher.stepsLeft_of_ending ended _
  have watched : (m.stepWatcher e).watched = some e := rfl
  have phase : (m.stepWatcher e).coordinator.phase = m.coordinator.phase := rfl
  unfold stepsLeft
  rw [phase, slots, publisher, watched, unseen]
  simp only [Option.isNone_some, Option.isNone_none, if_true, Bool.false_eq_true, if_false]
  omega

theorem left_replace (h : RunsDown c p m) {i : Nat} {t t' : Supervisor} {s' : Scene}
    (found : m.supervisors[i]? = some t) (left : t'.stepsLeft < t.stepsLeft)
    (now : s'.now = m.scene.now) (fanout : s'.fanout = m.scene.fanout) :
    stepsLeft { m with supervisors := m.supervisors.setIfInBounds i t', scene := s' } <
      m.stepsLeft := by
  let m' : Simulation := { m with supervisors := m.supervisors.setIfInBounds i t', scene := s' }
  have slots : m'.slotsLeft + t.stepsLeft = m.slotsLeft + t'.stepsLeft := slotsLeft_set found rfl
  have publisher : m'.publisherLeft = m.publisherLeft :=
    publisherLeft_congr h.reachable.waits rfl now fanout
  change m'.stepsLeft < _
  unfold stepsLeft
  rw [publisher, show m'.coordinator = m.coordinator from rfl, show m'.watched = m.watched from rfl]
  omega

theorem left_run (h : RunsDown c p m) {i : Nat} {t : Supervisor}
    (found : m.supervisors[i]? = some t) (ready : t.isRunReady (.slot i) m.scene = true) :
    stepsLeft { m with
      supervisors := m.supervisors.setIfInBounds i (t.stepRun (.slot i) m.scene).1
      scene := (t.stepRun (.slot i) m.scene).2 } < m.stepsLeft := by
  cases phase : t.phase with
  | supervising station =>
    have ready' : station.isReady (.slot i) m.scene = true := by
      simpa [Supervisor.isRunReady, phase] using ready
    have moves := Supervisor.stepRun_moves (h.reachable.staffed.member i t found).1 phase ready'
    have opened := h.reachable.ordered.opened found (Supervisor.not_hasEnded_of_supervising phase)
    obtain ⟨fanout, now⟩ := moves.aside opened
    have unheld : station.pending? = none := by
      simpa [Supervisor.pending?, phase] using h.unheld i t found
    rw [Supervisor.stepRun_eq phase]
    refine h.left_replace found ?_ now fanout
    simp only [Supervisor.stepsLeft, phase]
    exact Nat.add_lt_add_right (Station.step_left ready' unheld h.cancelled).1 2
  | _ => simp [Supervisor.isRunReady, phase] at ready

theorem left_join (h : RunsDown c p m) {left i : Nat} {t : Supervisor}
    (phase : m.coordinator.phase = .joining left) (found : m.supervisors[i]? = some t)
    (ended : t.hasEnded = true) (unjoined : t.joined = false) :
    (m.join i t).stepsLeft < m.stepsLeft := by
  have joins := join_joins phase ended i
  obtain ⟨e, he⟩ := Supervisor.phase_of_hasEnded ended
  have before : t.stepsLeft = 1 := by simp [Supervisor.stepsLeft, he, unjoined]
  have after : Supervisor.stepsLeft { t with joined := true } = 0 := by
    simp [Supervisor.stepsLeft, he]
  have joining : m.coordinator.phase.stepsLeft = 3 := by rw [phase]; rfl
  have joining' : (m.join i t).coordinator.phase.stepsLeft = 3 := by rw [joins.phase]; rfl
  have slots := slotsLeft_set found joins.supervisors
  have publisher : (m.join i t).publisherLeft = m.publisherLeft :=
    publisherLeft_congr h.reachable.waits joins.publisher joins.alike.now joins.alike.fanout
  unfold stepsLeft
  rw [joining, joining', publisher, joins.watched]
  omega

/-- Whoever goes on leaves fewer steps. -/
theorem left_step (h : RunsDown c p m) {e : SimulationEvent} (ready : m.isReady e = true) :
    (m.step e).stepsLeft < m.stepsLeft := by
  cases e with
  | shutdown cause => exact left_shutdown ready
  | coordinator =>
    simp only [isReady, coordinatorReady] at ready
    simp only [step, stepCoordinator]
    cases phase : m.coordinator.phase with
    | joining left => exact h.left_closeQueue phase
    | awaitingAggregator =>
      obtain ⟨e, crashed⟩ := h.crashed
      simp only [crashed, Option.elim_some]
      exact left_joinAggregator phase _
    | awaitingPublisher =>
      simp only [phase] at ready
      obtain ⟨e, watched⟩ := Option.isSome_iff_exists.mp ready
      simp only [watched, Option.elim_some]
      exact left_joinPublisher phase e
    | _ => simp [phase] at ready
  | publisher =>
    obtain ⟨q, present, hq⟩ := (Option.any_eq_true _ _).mp ready
    simp only [step, present]
    exact h.left_publisher present hq
  | watcher =>
    simp only [isReady, Bool.and_eq_true, Option.isNone_iff_eq_none] at ready
    obtain ⟨q, present, hq⟩ := (Option.any_eq_true _ _).mp ready.2
    obtain ⟨e, ended⟩ := Option.isSome_iff_exists.mp hq
    simp only [step, present, Option.bind_some, ended]
    exact left_watcher ready.1 present ended
  | aggregator =>
    obtain ⟨e, crashed⟩ := h.crashed
    have live := Aggregator.live_of_isReady (show m.aggregator.isReady m.scene = true from ready)
    simp [crashed] at live
  | supervisor i =>
    obtain ⟨t, found, ht⟩ := (Option.any_eq_true _ _).mp ready
    have passes := Supervisor.step_passes (h.reachable.staffed.member i t found).1 m.scene ht
    simp only [step, found]
    exact h.left_replace found (Supervisor.step_left ht h.cancelled) passes.alike.now
      passes.alike.fanout
  | run i =>
    obtain ⟨t, found, ht⟩ := (Option.any_eq_true _ _).mp ready
    simp only [step, found]
    exact h.left_run found ht
  | join i =>
    simp only [isReady, canJoin] at ready
    cases phase : m.coordinator.phase with
    | joining left =>
      simp only [phase] at ready
      obtain ⟨t, found, ht⟩ := (Option.any_eq_true _ _).mp ready
      simp only [Bool.and_eq_true, Bool.not_eq_true'] at ht
      simp only [step, found]
      exact h.left_join phase found ht.1 ht.2
    | _ => simp [phase] at ready

theorem keeps (h : RunsDown c p m) {cues : List Cue} {m' : Simulation}
    (hf : m.follow cues = some m') : RunsDown c p m' :=
  follow_keeps hf h fun _ step h => h.next step

/-- So the tasks cannot go on for ever. -/
theorem left_follow (h : RunsDown c p m) {events : List SimulationEvent} {m' : Simulation}
    (hf : m.follow (events.map .event) = some m') :
    events.length + m'.stepsLeft ≤ m.stepsLeft := by
  induction events generalizing m with
  | nil => simp [follow_nil.mp hf]
  | cons e events ih =>
    obtain ⟨m₁, step, rest⟩ := follow_cons.mp hf
    have bound := ih (h.next step) rest
    simp only [next?, Option.ite_none_right_eq_some, Option.some.injEq] at step
    have left := h.left_step step.1
    rw [step.2] at left
    simp only [List.length_cons]
    omega

/-- When nobody can go on, the barrier was passed, the queue is closed and the run has failed. -/
theorem ended_of_idle (h : RunsDown c p m) (idle : machine.isIdle m = true) :
    (∀ t ∈ m.supervisors, t.hasEnded = true) ∧ m.scene.primary.isClosed = true ∧
      ∃ text, m.result? = some (.error (.other text)) := by
  have stuck := isReady_of_isIdle idle
  obtain ⟨e, crashed⟩ := h.crashed
  cases phase : m.coordinator.phase with
  | running d i =>
    have cancellation := stuck (.shutdown .cancellation)
    simp [isReady, isCause, phase, h.cancelled] at cancellation
  | joining left =>
    obtain ⟨i, t, found, pending⟩ := h.reachable.exists_pending phase stuck
    simp [h.unheld i t found] at pending
  | awaitingAggregator =>
    have taking := stuck .coordinator
    simp [isReady, coordinatorReady, phase, crashed] at taking
  | awaitingPublisher =>
    obtain ⟨q, present, ticker, r, pending, started, timeout, hq⟩ :=
      h.reachable.publishing_of_stuck phase stuck
    have hand := h.unread.idle q present
    simp [Publisher.atHand?, hq] at hand
  | ended r =>
    have past : m.coordinator.phase.isPast = true := by rw [phase]; rfl
    obtain ⟨text, rfl⟩ := h.reachable.result_of_crash crashed phase
    refine ⟨fun t ht => ?_, h.reachable.ordered.closed.trans past, text, by simp [result?, phase]⟩
    obtain ⟨i, found⟩ := Array.getElem?_of_mem ht
    exact h.reachable.ordered.ended past found

end RunsDown

/-- Whatever happens, the tasks soon come to a stop if they are left to go on, and where they have
stopped the run has failed for a crash, with every supervisor at its end and the queue closed. -/
def Concluding (m : Simulation) : Prop :=
  ∀ cues m', m.follow cues = some m' →
    (∃ bound, ∀ (events : List SimulationEvent) m'', m'.follow (events.map .event) = some m'' →
      events.length ≤ bound) ∧
    (machine.isIdle m' = true → (∀ t ∈ m'.supervisors, t.hasEnded = true) ∧
      m'.scene.primary.isClosed = true ∧ ∃ text, m'.result? = some (.error (.other text)))

/-- Tasks that come to a stop sooner or later come to one. -/
theorem exists_idle {m : Simulation} {bound : Nat}
    (h : ∀ (events : List SimulationEvent) (m' : Simulation),
      m.follow (events.map .event) = some m' → events.length ≤ bound) :
    ∃ (events : List SimulationEvent) (m' : Simulation),
      m.follow (events.map .event) = some m' ∧ machine.isIdle m' = true := by
  by_contra busy
  have goes (n : Nat) : ∃ (events : List SimulationEvent) (m' : Simulation),
      m.follow (events.map .event) = some m' ∧ events.length = n := by
    induction n with
    | zero => exact ⟨[], m, rfl, rfl⟩
    | succ n ih =>
      obtain ⟨events, m', hf, hl⟩ := ih
      have going : machine.isIdle m' = false := by
        rw [Bool.eq_false_iff]
        exact fun idle => busy ⟨events, m', hf, idle⟩
      obtain ⟨e, _, ready⟩ := List.all_eq_false.mp going
      have ready' : m'.isReady e = true := by simpa [machine] using ready
      refine ⟨events ++ [e], m'.step e, ?_, by simp [hl]⟩
      rw [List.map_append, follow_append, hf]
      simp [follow_one, next?, ready']
  obtain ⟨events, m', hf, hl⟩ := goes (bound + 1)
  have short := h events m' hf
  omega

/-- What becomes of a run that has lost its aggregator. A producer that waits for room waits for
ever, at a queue that stays open and full, and the run does not end. Once it is cancelled, the run
fails as it should just when no producer waits for room. -/
theorem Reachable.containment {c : Config} {p : Equipment} {m : Simulation} (h : Reachable c p m)
    {e : Crash} (crashed : m.aggregator.ending? = some (.crashed e)) :
    (∀ i r, m.Holds i r → ∀ cues m', m.follow cues = some m' →
      m'.Holds i r ∧ m'.scene.primary.isClosed = false ∧ m'.scene.primary.isFull = true ∧
        m'.result? = none) ∧
    (m.scene.cancelled = true → (m.Concluding ↔ ∀ i r, ¬m.Holds i r)) := by
  refine ⟨fun i r holds cues m' hf => h.holds_for_ever crashed holds hf, fun cancelled => ?_⟩
  constructor
  · intro concluding i r holds
    obtain ⟨⟨bound, ends⟩, _⟩ := concluding [] m rfl
    obtain ⟨events, m', hf, idle⟩ := exists_idle ends
    obtain ⟨_, _, _, result⟩ := h.holds_for_ever crashed holds hf
    obtain ⟨_, _, text, failed⟩ := (concluding _ m' hf).2 idle
    simp [result] at failed
  · intro unheld cues m' hf
    have down : RunsDown c p m := by
      refine ⟨h, ⟨e, crashed⟩, cancelled, fun i t found => ?_⟩
      cases pending : t.pending? with
      | none => rfl
      | some r => exact absurd ⟨t, found, pending⟩ (unheld i r)
    have down' := down.keeps hf
    refine ⟨⟨m'.stepsLeft, fun events m'' hf' => ?_⟩, down'.ended_of_idle⟩
    have left := down'.left_follow hf'
    omega

def overlong (capacity : Nat) : Config where
  producers := 1
  capacity := capacity
  interval := Duration.ofMillis 10
  duration := Duration.ofMillis 25
  summaryInterval := Duration.ofSeconds 18446744073709551615

def steadily : Equipment where
  clock := .fixed default
  sources := fun _ _ _ => .source fun _ => .value default

def twoTicks : List Cue :=
  [.event .aggregator, .event (.supervisor 0), .event (.run 0), .time 10000000, .event (.run 0),
    .time 20000000, .event (.run 0), .time 25000000, .event (.shutdown .duration)]

def isStranded (m : Simulation) : Bool :=
  m.scene.cancelled &&
    decide (m.aggregator.ending? =
      some (.crashed (.text "overflow when adding duration to instant")))

theorem concluding_with_room_for_two :
    ∃ m, Reachable (overlong 2) steadily m ∧ m.scene.cancelled = true ∧
      (∃ e, m.aggregator.ending? = some (.crashed e)) ∧ m.Concluding := by
  let isFree (m : Simulation) : Bool :=
    isStranded m && m.supervisors.toList.all fun t => t.pending?.isNone
  obtain ⟨m, reachable, free⟩ : ∃ m, Reachable (overlong 2) steadily m ∧ isFree m = true :=
    exists_reachable twoTicks (by decide)
  simp only [isFree, isStranded, Bool.and_eq_true, decide_eq_true_eq] at free
  obtain ⟨⟨cancelled, crashed⟩, free⟩ := free
  have unheld (i : Nat) (r : Reading) : ¬m.Holds i r := by
    rintro ⟨t, found, pending⟩
    have none := List.all_eq_true.mp free t (Array.mem_of_getElem? found).val
    simp [pending] at none
  exact ⟨m, reachable, cancelled, ⟨_, crashed⟩,
    ((reachable.containment crashed).2 cancelled).mpr unheld⟩

/-- With room for one: the producer waits for ever with the other. -/
theorem held_past_the_end :
    Simulation.check (overlong 1) steadily.broker.isSome = .ok () ∧
    ∃ m r, Reachable (overlong 1) steadily m ∧ m.scene.cancelled = true ∧
      (∃ e, m.aggregator.ending? = some (.crashed e)) ∧
      ∀ cues m', m.follow cues = some m' → m'.Holds 0 r ∧
        m'.scene.primary.isClosed = false ∧ m'.scene.primary.isFull = true ∧ m'.result? = none := by
  let isHeld (m : Simulation) : Bool :=
    isStranded m && m.supervisors[0]?.any fun t => t.pending?.isSome
  obtain ⟨m, reachable, held⟩ : ∃ m, Reachable (overlong 1) steadily m ∧ isHeld m = true :=
    exists_reachable twoTicks (by decide)
  simp only [isHeld, isStranded, Bool.and_eq_true, decide_eq_true_eq] at held
  obtain ⟨⟨cancelled, crashed⟩, held⟩ := held
  obtain ⟨t, found, waits⟩ := (Option.any_eq_true _ _).mp held
  obtain ⟨r, pending⟩ := Option.isSome_iff_exists.mp waits
  exact ⟨rfl, m, r, reachable, cancelled, ⟨_, crashed⟩,
    fun cues m' hf => reachable.holds_for_ever crashed ⟨t, found, pending⟩ hf⟩

end Simulation
end SensorFleet
