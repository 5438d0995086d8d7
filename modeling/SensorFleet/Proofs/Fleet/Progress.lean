import SensorFleet.Proofs.Fleet.Results

/-!
Nobody waits in vain. A writer that waits and has not been woken looks at a full queue, a reader
that waits and has not been woken at an open and empty one. So while the aggregator lives, whoever
the coordinator waits for can go on, or waits for somebody else who can, down to the publish in
flight.
-/
namespace SensorFleet

namespace Channel.Attended
variable {q : ReadingQueue} {W R : Party → Prop} {who : Party}

/-- A reader that waits at a queue with something to see was woken. -/
theorem reader_woken (h : q.Attended 0 0 W (who.reads true))
    (seen : q.isClosed = true ∨ q.buffer ≠ []) : q.isReaderWoken who = true := by
  have waits : who.reads true who := ⟨rfl, rfl⟩
  rcases seen with closed | filled
  · exact (h.woken_of_closed closed who).1 waits
  · obtain ⟨w, ⟨_, rfl⟩, woken⟩ := h.reader_awake waits filled
    exact woken

end Channel.Attended

/-- After the cancellation, a run that cannot go on waits for room. -/
theorem Supervisor.pending_of_stuck {t : Supervisor} (who : Party) {s : Scene}
    (live : t.hasEnded = false) (stuck : t.isReady = false) (runStuck : t.isRunReady who s = false)
    (cancelled : s.cancelled = true) : t.pending?.isSome = true := by
  unfold Supervisor.isReady at stuck
  unfold Supervisor.isRunReady at runStuck
  unfold Supervisor.pending?
  cases hp : t.phase with
  | created => simp [hp] at stuck
  | supervising station =>
    simp only [hp, Station.ending?] at stuck
    simp only [hp, Station.isReady] at runStuck
    simp only [Station.pending?]
    cases hr : station.run.phase with
    | created => simp [hr] at runStuck
    | ticking ticker => simp [hr, cancelled] at runStuck
    | sending ticker r => rfl
    | ended e => simp [hr] at stuck
  | ended e => simp [Supervisor.hasEnded, Supervisor.ending?, hp] at live

theorem Supervisor.isRunReady_of_woken {t : Supervisor} {who : Party} {s : Scene}
    (pending : t.pending?.isSome = true) (woken : s.primary.isWriterWoken who = true) :
    t.isRunReady who s = true := by
  unfold Supervisor.pending? at pending
  unfold Supervisor.isRunReady
  cases hp : t.phase with
  | supervising station =>
    simp only [hp, Station.pending?] at pending
    simp only [Station.isReady]
    cases hr : station.run.phase with
    | sending ticker r => exact woken
    | _ => simp [hr] at pending
  | _ => simp [hp] at pending

theorem Aggregator.parked_of_stuck {a : Aggregator} {s : Scene} (live : a.ending? = none)
    (stuck : a.isReady s = false) :
    a.isParked = true ∧ s.primary.isReaderWoken .aggregator = false := by
  unfold Aggregator.ending? at live
  unfold Aggregator.isReady at stuck
  unfold Aggregator.isParked
  cases hp : a.phase with
  | created => simp [hp] at stuck
  | waiting ticker parked =>
    simp only [hp, Bool.or_eq_false_iff, Bool.not_eq_false'] at stuck
    exact ⟨stuck.1.2, stuck.2⟩
  | ended e => simp [hp] at live

/-- A publisher that cannot go on waits, unwoken, or has a publish in flight. -/
theorem Publisher.parked_of_stuck {q : Publisher} {s : Scene} (live : q.ending? = none)
    (stuck : q.isReady s = false) :
    (∃ ticker r pending started timeout, q.phase = .publishing ticker r pending started timeout) ∨
      q.isParked = true ∧ (s.queue q.stage).isReaderWoken .publisher = false := by
  unfold Publisher.ending? at live
  unfold Publisher.isReady at stuck
  unfold Publisher.isParked
  cases hp : q.phase with
  | created => simp [hp] at stuck
  | waiting ticker parked =>
    simp only [hp, Bool.or_eq_false_iff, Bool.not_eq_false'] at stuck
    exact .inr ⟨stuck.1.2, stuck.2⟩
  | publishing ticker r pending started timeout => exact .inl ⟨_, _, _, _, _, rfl⟩
  | ended e => simp [hp] at live

namespace Simulation

structure HandedOver (m : Simulation) : Prop where
  aggregator : m.coordinator.phase = .awaitingPublisher → m.aggregator.ending?.isSome = true
  fanout : m.coordinator.phase = .awaitingPublisher → m.scene.fanout.isClosed = true

theorem Turn.handedOver {m m' : Simulation} (turn : Turn m m') (entry : Entry m m')
    (h : HandedOver m) : HandedOver m' := by
  obtain ⟨_, posts⟩ := entry.posts
  have keep (phase : m'.coordinator.phase = .awaitingPublisher →
      m.coordinator.phase = .awaitingPublisher) : HandedOver m' := by
    refine ⟨fun hp => ?_, fun hp => (posts.ages .fanout).closed (h.fanout (phase hp))⟩
    have ended := h.aggregator (phase hp)
    rcases turn.aggregator_moves with same | ⟨live, _⟩
    · rw [same]
      exact ended
    · simp [live] at ended
  cases turn with
  | shutdown cause phase => exact ⟨nofun, nofun⟩
  | closeQueue phase => exact ⟨nofun, nofun⟩
  | @joinAggregator e phase ended =>
    have takes := joinAggregator_takes m e
    refine ⟨fun _ => by rw [takes.keeps.aggregator, ended]; rfl, fun hp => ?_⟩
    have alike := takes.scene
    have hphase := takes.phase
    split at alike
    · rw [alike.fanout]
      rfl
    next absent => simp [absent, hp] at hphase
  | @joinPublisher e phase watched =>
    obtain ⟨r, hr, _⟩ := (joinPublisher_takes m e).phase
    exact ⟨fun hp => by simp [hr] at hp, fun hp => by simp [hr] at hp⟩
  | @join i left t phase found ended unjoined =>
    have hp := (join_joins phase ended i).phase
    exact ⟨fun h => by simp [hp] at h, fun h => by simp [hp] at h⟩
  | _ => exact keep id

theorem Reachable.handedOver {c : Config} {p : Equipment} {m : Simulation} (h : Reachable c p m) :
    HandedOver m := by
  refine h.invariant (fun started => ?_) fun prior turn hm => turn.handedOver (prior.entry turn) hm
  obtain ⟨duration, interrupt, phase⟩ := (start_started started).phase
  exact ⟨fun hp => by simp [phase] at hp, fun hp => by simp [phase] at hp⟩

/-- Whether a task sleeps until some instant, if only one too far away to come. -/
def hasTimer (m : Simulation) : Bool :=
  m.coordinator.phase.isRunning ||
    (match m.aggregator.phase with
      | .waiting _ _ => true
      | _ => false) ||
    (m.publisher.any fun q =>
      match q.phase with
      | .waiting _ _ | .publishing _ _ _ _ _ => true
      | _ => false) ||
    m.supervisors.any fun t => t.alarms ≠ []

theorem offered_of_isReady {m : Simulation} {e : SimulationEvent} (h : m.isReady e = true) :
    e ∈ m.events := by
  have inside {i : Nat} {f : Supervisor → Bool} (hf : (m.supervisors[i]?).any f = true) :
      i < m.supervisors.size := by
    obtain ⟨t, found, _⟩ := (Option.any_eq_true _ _).mp hf
    exact (Array.getElem?_eq_some_iff.mp found).1
  unfold events
  cases e with
  | shutdown cause => cases cause <;> simp
  | coordinator | publisher | watcher | aggregator => simp
  | supervisor i =>
    have hi := inside h
    simp [hi]
  | run i =>
    have hi := inside h
    simp [hi]
  | join i =>
    simp only [isReady, canJoin] at h
    split at h
    · have hi := inside h
      simp [hi]
    · cases h

theorem isReady_of_isIdle {m : Simulation} (idle : machine.isIdle m = true) (e : SimulationEvent) :
    m.isReady e = false := by
  by_contra ready
  rw [Bool.not_eq_false] at ready
  have stuck := List.all_eq_true.mp idle e (offered_of_isReady ready)
  simp [machine, ready] at stuck

theorem exists_unjoined {m : Simulation} (h : m.unjoined ≠ 0) :
    ∃ (i : Nat) (t : Supervisor), m.supervisors[i]? = some t ∧ t.joined = false := by
  obtain ⟨n, hn, hpos⟩ := List.sum_pos_iff_exists_pos_nat.mp (Nat.pos_of_ne_zero h)
  obtain ⟨t, ht, rfl⟩ := List.mem_map.mp hn
  obtain ⟨i, hi⟩ := List.getElem?_of_mem ht
  refine ⟨i, t, by simpa using hi, ?_⟩
  cases hj : t.joined
  · rfl
  · simp [hj] at hpos

section Stuck
variable {c : Config} {p : Equipment} {m : Simulation}

/-- An aggregator that cannot go on and did not crash has returned, if there is something to see. -/
theorem Reachable.aggregator_returned (h : Reachable c p m)
    (alive : ∀ e, m.aggregator.ending? ≠ some (.crashed e))
    (stuck : m.isReady .aggregator = false)
    (seen : m.scene.primary.isClosed = true ∨ m.scene.primary.buffer ≠ []) :
    ∃ n, m.aggregator.ending? = some (.returned n) := by
  cases ending : m.aggregator.ending? with
  | some e =>
    cases e with
    | returned n => exact ⟨n, rfl⟩
    | crashed e => exact absurd ending (alive e)
  | none =>
    obtain ⟨parked, unwoken⟩ := Aggregator.parked_of_stuck ending stuck
    have attended := h.waits.attended.primary
    rw [parked] at attended
    simp [attended.reader_woken seen] at unwoken

/-- When nobody can go on while the coordinator waits for the supervisors, a run waits for room. -/
theorem Reachable.exists_pending (h : Reachable c p m) {left : Nat}
    (phase : m.coordinator.phase = .joining left) (stuck : ∀ e, m.isReady e = false) :
    ∃ (i : Nat) (t : Supervisor), m.supervisors[i]? = some t ∧ t.pending?.isSome = true := by
  have ordered := h.ordered
  have cancelled : m.scene.cancelled = true :=
    ordered.cancelled (by simp [phase, CoordinatorPhase.isRunning])
  have awaited : m.unjoined = left := by
    rw [ordered.awaited, phase]
    rfl
  have some_left : left ≠ 0 := by
    have hc := stuck .coordinator
    simpa [isReady, coordinatorReady, phase] using hc
  obtain ⟨i, t, found, unjoined⟩ := exists_unjoined (awaited ▸ some_left)
  have live : t.hasEnded = false := by
    have hj := stuck (.join i)
    simpa [isReady, canJoin, phase, found, unjoined] using hj
  refine ⟨i, t, found, Supervisor.pending_of_stuck (.slot i) live ?_ ?_ cancelled⟩
  · simpa [isReady, found] using stuck (.supervisor i)
  · simpa [isReady, found] using stuck (.run i)

/-- When nobody can go on and the aggregator has not crashed, no run waits for room: there would be
none, and the aggregator would be woken by what fills the queue. -/
theorem Reachable.nobody_pending (h : Reachable c p m)
    (alive : ∀ e, m.aggregator.ending? ≠ some (.crashed e)) (stuck : ∀ e, m.isReady e = false)
    {i : Nat} {t : Supervisor} (found : m.supervisors[i]? = some t) : t.pending? = none := by
  rw [← Option.not_isSome_iff_eq_none]
  intro pending
  have attended := h.waits.attended.primary
  -- nobody who waits for room was woken, so there is none
  have full : m.scene.primary.capacity ≤ m.scene.primary.length := by
    by_contra room
    obtain ⟨w, ⟨j, u, rfl, hu, hp⟩, woken⟩ := attended.writer_awake
      ((sending_slot found).mpr pending) (Nat.lt_of_not_le room)
    have hr := stuck (.run j)
    simp [isReady, hu, Supervisor.isRunReady_of_woken hp woken] at hr
  have filled : m.scene.primary.buffer ≠ [] := by
    have hroom := attended.lacks.room
    exact List.length_pos_iff.mp (Nat.lt_of_lt_of_le hroom full)
  obtain ⟨n, returned⟩ := h.aggregator_returned alive (stuck _) (.inr filled)
  exact filled (h.drained.aggregator n returned).2.2

/-- Somebody can go on while the coordinator waits for the supervisors: one that has ended, a run
that was woken, or the aggregator, without which a full queue would not be emptied. -/
theorem Reachable.ready_of_joining (h : Reachable c p m)
    (alive : ∀ e, m.aggregator.ending? ≠ some (.crashed e)) {left : Nat}
    (phase : m.coordinator.phase = .joining left) : ∃ e, m.isReady e = true := by
  by_contra none_ready
  simp only [not_exists, Bool.not_eq_true] at none_ready
  obtain ⟨i, t, found, pending⟩ := h.exists_pending phase none_ready
  simp [h.nobody_pending alive none_ready found] at pending

theorem Reachable.ready_of_awaitingAggregator (h : Reachable c p m)
    (alive : ∀ e, m.aggregator.ending? ≠ some (.crashed e))
    (phase : m.coordinator.phase = .awaitingAggregator) : ∃ e, m.isReady e = true := by
  by_contra none_ready
  simp only [not_exists, Bool.not_eq_true] at none_ready
  have closed : m.scene.primary.isClosed = true := by
    rw [h.ordered.closed, phase]
    rfl
  obtain ⟨n, returned⟩ := h.aggregator_returned alive (none_ready _) (.inl closed)
  have hc := none_ready .coordinator
  simp [isReady, coordinatorReady, phase, returned] at hc

/-- The coordinator waits for the publisher only while that can go on or has a publish in flight. -/
theorem Reachable.publishing_of_stuck (h : Reachable c p m)
    (phase : m.coordinator.phase = .awaitingPublisher) (none_ready : ∀ e, m.isReady e = false) :
    ∃ q, m.publisher = some q ∧ ∃ ticker r pending started timeout,
      q.phase = .publishing ticker r pending started timeout := by
  obtain ⟨q, present⟩ := Option.isSome_iff_exists.mp (h.collected.awaits phase)
  refine ⟨q, present, ?_⟩
  have unseen : m.watched = none := by
    have hc := none_ready .coordinator
    simpa [isReady, coordinatorReady, phase] using hc
  have live : q.ending? = none := by
    have hw := none_ready .watcher
    simpa [isReady, unseen, present] using hw
  have stuck : q.isReady m.scene = false := by
    simpa [isReady, present] using none_ready .publisher
  rcases Publisher.parked_of_stuck live stuck with publishing | ⟨parked, unwoken⟩
  · exact publishing
  · have attended := h.waits.attended.fanout
    rw [present, Option.any_some, parked] at attended
    have woken := attended.reader_woken (.inl (h.handedOver.fanout phase))
    rw [h.waits.stage q present] at unwoken
    exact absurd woken (by rw [show m.scene.fanout = m.scene.queue .fanout from rfl, unwoken]; simp)

/-- In every reachable state in which the aggregator has not crashed and the run is not over, some
task can go on or sleeps. After the cancellation, if none can go on, then every supervisor and the
aggregator have ended, and the coordinator waits for a publisher that has a publish in flight: no
run waits for room, and no reader for a reading. -/
theorem Reachable.no_deadlock (h : Reachable c p m)
    (alive : ∀ e, m.aggregator.ending? ≠ some (.crashed e)) (going : m.hasEnded = false) :
    (machine.isIdle m = false ∨ m.hasTimer = true) ∧
      (m.scene.cancelled = true → machine.isIdle m = true →
        m.coordinator.phase = .awaitingPublisher ∧ (∀ t ∈ m.supervisors, ∃ e, t.phase = .ended e) ∧
        (∃ n, m.aggregator.ending? = some (.returned n)) ∧
        ∃ q, m.publisher = some q ∧ ∃ ticker r pending started timeout,
          q.phase = .publishing ticker r pending started timeout) := by
  have busy {P : Prop} (idle : machine.isIdle m = true) (ready : ∃ e, m.isReady e = true) : P := by
    obtain ⟨e, he⟩ := ready
    simp [isReady_of_isIdle idle e] at he
  cases phase : m.coordinator.phase with
  | running duration interrupt =>
    refine ⟨.inr (by simp [hasTimer, phase, CoordinatorPhase.isRunning]), fun cancelled idle => ?_⟩
    exact busy idle ⟨.shutdown .cancellation, by simp [isReady, isCause, phase, cancelled]⟩
  | joining left =>
    have ready := h.ready_of_joining alive phase
    refine ⟨.inl ?_, fun _ idle => busy idle ready⟩
    rw [Bool.eq_false_iff]
    exact fun idle => busy idle ready
  | awaitingAggregator =>
    have ready := h.ready_of_awaitingAggregator alive phase
    refine ⟨.inl ?_, fun _ idle => busy idle ready⟩
    rw [Bool.eq_false_iff]
    exact fun idle => busy idle ready
  | awaitingPublisher =>
    have publishing (idle : machine.isIdle m = true) :=
      h.publishing_of_stuck phase (isReady_of_isIdle idle)
    have past : m.coordinator.phase.isPast = true := by rw [phase]; rfl
    refine ⟨?_, fun _ idle => ⟨rfl, ?_, ?_, publishing idle⟩⟩
    · cases idle : machine.isIdle m with
      | false => exact .inl rfl
      | true =>
        obtain ⟨q, present, ticker, r, pending, started, timeout, hq⟩ := publishing idle
        exact .inr (by simp [hasTimer, present, hq])
    · intro t ht
      obtain ⟨i, found⟩ := Array.getElem?_of_mem ht
      exact Supervisor.phase_of_hasEnded (h.ordered.ended past found)
    · obtain ⟨e, he⟩ := Option.isSome_iff_exists.mp (h.handedOver.aggregator phase)
      cases e with
      | returned n => exact ⟨n, he⟩
      | crashed e => exact absurd he (alive e)
  | ended r => simp [hasEnded, result?, phase] at going

end Stuck

/-- A broker that takes its time, and a cancellation while it does. -/
theorem waiting_for_a_publish :
    ∃ (c : Config) (p : Equipment) (m : Simulation), Reachable c p m ∧
      m.scene.cancelled = true ∧ machine.isIdle m = true ∧
      m.coordinator.phase = .awaitingPublisher ∧ ∃ q, m.publisher = some q ∧
        ∃ ticker r pending started timeout,
          q.phase = .publishing ticker r pending started timeout := by
  let c : Config := { producers := 1, capacity := 1, publishes := true }
  let p : Equipment :=
    { clock := .fixed default, sources := fun _ _ _ => .source fun _ => .value default
      broker := some { kind := .recording, delay := 10000 } }
  let cues : List Cue := [.event .publisher, .event .aggregator, .event (.supervisor 0),
    .event (.run 0), .time 100000000, .event (.run 0), .event .aggregator, .event .publisher,
    .outside .cancel, .event (.shutdown .cancellation), .event (.run 0), .event (.supervisor 0),
    .event (.join 0), .event .coordinator, .event .aggregator, .event .aggregator,
    .event .coordinator, .event .publisher]
  let isStill (m : Simulation) : Bool :=
    m.scene.cancelled && machine.isIdle m && !m.hasEnded &&
      decide (m.aggregator.ending? = some (.returned { received := 1, forwarded := 1 }))
  obtain ⟨m, reachable, still⟩ : ∃ m, Reachable c p m ∧ isStill m = true :=
    exists_reachable cues (by decide)
  simp only [isStill, Bool.and_eq_true, Bool.not_eq_true', decide_eq_true_eq] at still
  obtain ⟨⟨⟨cancelled, idle⟩, going⟩, returned⟩ := still
  obtain ⟨_, stuck⟩ := reachable.no_deadlock (by simp [returned]) going
  obtain ⟨phase, _, _, publishing⟩ := stuck cancelled idle
  exact ⟨c, p, m, reachable, cancelled, idle, phase, publishing⟩

end Simulation
end SensorFleet
