import SensorFleet.Proofs.Fleet.BrokerLife
import SensorFleet.Proofs.Fleet.CalmPorts
import SensorFleet.Proofs.Fleet.DrainLimit

/-!
Accepted configurations and the range of the clock. An interval is accepted however long it is, but
whoever keeps it crashes when its first tick cannot be represented. If what a simulation is given
never crashes, that is all that can go wrong: while the intervals fit, no task is lost, no slot
faults, and the run ends with a report.
-/
namespace SensorFleet

theorem Config.positive_of_validate {c : Config} (h : c.validate = .ok ()) :
    ∀ d ∈ c.positiveDurations, 0 < d.2 := by
  cases found : c.positiveDurations.find? fun d => d.2 = 0 with
  | none =>
    intro d listed
    simpa [Nat.pos_iff_ne_zero] using List.find?_eq_none.mp found d listed
  | some zero =>
    have last := lastId_of_validate h
    unfold validate at h
    rw [last] at h
    by_cases none : c.capacity = 0
    · simp [none, bind, Except.bind, throw, throwThe, MonadExceptOf.throw] at h
    · simp [none, found, bind, Except.bind, throw, throwThe, MonadExceptOf.throw] at h

namespace Simulation

/-- The first ticks after an instant can be represented. -/
structure Fits (c : Config) (now : Nat) : Prop where
  interval : now + c.interval < Instant.limit
  summaryInterval : now + c.summaryInterval < Instant.limit

structure Sound (c : Config) (m : Simulation) : Prop where
  supervisors : ∀ (i : Nat) (t : Supervisor), m.supervisors[i]? = some t → t.Sound c.interval
  aggregator : m.aggregator.Sound c.summaryInterval
  publisher : ∀ q, m.publisher = some q → q.Sound c.summaryInterval

theorem start_iff {c : Config} {p : Equipment} :
    (∃ m, start c p = .ok m) ↔ c.capacity ≤ ReadingQueue.mostCapacity := by
  unfold start ReadingQueue.ofCapacity
  split
  next most => exact iff_of_false (by rintro ⟨m, started⟩; cases started) (Nat.not_le_of_lt most)
  next fits => exact iff_of_true ⟨_, rfl⟩ (Nat.le_of_not_lt fits)

section Safe
variable {c : Config} {p : Equipment} {m m' : Simulation}

theorem Deals.kind (h : Deals m m') : m'.scene.broker.kind = m.scene.broker.kind := by
  cases h with
  | apart scene => rw [scene.broker]
  | turns switch broker => rw [broker, Broker.turn_kind]
  | speaks q q' before live after speaks => exact speaks.kind
  | leaves r absent publisher going result broker => rw [broker]
  | closes r error phase watched publisher result broker => rw [broker, Broker.close_kind]

theorem Reachable.broker_calm (h : Reachable c p m) (calm : p.Calm) : m.scene.broker.kind.Calm := by
  refine h.invariant (P := fun m => m.scene.broker.kind.Calm) (fun started => ?_) ?_
  swap
  · exact fun prior turn hm => (turn.deals prior).kind ▸ hm
  rw [(start_broker started).1]
  cases given : p.broker with
  | none => trivial
  | some b => exact calm.broker b given

theorem Reachable.now_le (h : Reachable c p m) {cue : Cue} (step : m.next? cue = some m') :
    m.scene.now ≤ m'.scene.now := by
  cases cue with
  | event e =>
    simp only [next?, Option.ite_none_right_eq_some, Option.some.injEq] at step
    rw [← step.2, h.now_step step.1]
  | time t =>
    simp only [next?, Option.ite_none_right_eq_some, Option.some.injEq] at step
    exact step.2 ▸ step.1
  | outside i =>
    simp only [next?, Option.some.injEq] at step
    subst step
    cases i <;> exact Nat.le_refl _

theorem start_sound (started : start c p = .ok m) : Sound c m := by
  have began := start_started started
  refine ⟨fun i t found => ?_, ?_, fun q present => ?_⟩
  · rw [began.found found]
    exact ⟨rfl, rfl, nofun, nofun, nofun⟩
  · rw [began.aggregator]
    exact ⟨rfl, nofun⟩
  · rw [began.publisher] at present
    unfold publisherOf at present
    split at present
    · cases present
      exact ⟨rfl, nofun, nofun⟩
    · cases present

theorem Turn.aggregator_step (turn : Turn m m') : m'.aggregator = m.aggregator ∨
    m'.aggregator = (m.aggregator.step m.scene).1 := by
  cases turn with
  | joinAggregator phase ended => exact .inl (joinAggregator_takes m _).keeps.aggregator
  | joinPublisher phase watched => exact .inl (joinPublisher_takes m _).keeps.aggregator
  | aggregator ready => exact .inr rfl
  | @join i left t phase found ended unjoined => exact .inl (join_joins phase ended i).aggregator
  | _ => exact .inl rfl

theorem Turn.sound (turn : Turn m m') (prior : Reachable c p m) (calm : p.Calm)
    {ticker summaries : Ticker} (fits : Ticker.start? m.scene.now c.interval = .ok ticker)
    (summariesFit : Ticker.start? m.scene.now c.summaryInterval = .ok summaries) (h : Sound c m) :
    Sound c m' where
  supervisors := by
    refine turn.each h.supervisors fun {i t t'} found turns => ?_
    have sound := h.supervisors i t found
    have proper := (prior.staffed.member i t found).1
    cases turns with
    | steps ready =>
      refine sound.steps ?_ (Supervisor.step_proceeds proper (prior.lawful i t found) ready)
      rw [Supervisor.nextSource, prior.supplied.sources]
      exact calm.sources _ _ _
    | @runs station phase ready =>
      have opened := prior.ordered.opened found (Supervisor.not_hasEnded_of_supervising phase)
      rw [Supervisor.stepRun_eq phase]
      exact sound.runs phase (Station.step_acts _ (Station.live_of_isReady ready) opened) fits
    | joins ended unjoined =>
      exact ⟨sound.interval, sound.faults, sound.alive, sound.run, sound.report⟩
  aggregator := by
    rcases turn.aggregator_step with same | after
    · exact same ▸ h.aggregator
    · exact after ▸ h.aggregator.step summariesFit
  publisher := by
    intro q' present'
    rcases turn.publisher_step with same | ⟨q, present, ready, after⟩
    · exact h.publisher q' (same ▸ present')
    · rw [after, Option.some.injEq] at present'
      exact present' ▸ (h.publisher q present).step summariesFit (prior.broker_calm calm)

/-- While the intervals fit, no task of an accepted configuration crashes. -/
theorem Reachable.sound (valid : c.validate = .ok ()) (calm : p.Calm) (h : Reachable c p m)
    (fits : Fits c m.scene.now) : Sound c m := by
  have positive := Config.positive_of_validate valid
  induction h with
  | start started => exact start_sound started
  | next prior cue step ih =>
    have past := prior.now_le step
    have before : Fits c _ :=
      ⟨Nat.lt_of_le_of_lt (Nat.add_le_add_right past _) fits.interval,
        Nat.lt_of_le_of_lt (Nat.add_le_add_right past _) fits.summaryInterval⟩
    exact (turn_of_next step).sound prior calm
      (Ticker.start?_of_fits (positive ("producer_interval", _) (by simp [Config.positiveDurations]))
        before.interval)
      (Ticker.start?_of_fits (positive ("summary_interval", _) (by simp [Config.positiveDurations]))
        before.summaryInterval)
      (ih before)

structure Flawless (c : Config) (report : SimReport) : Prop where
  restarts : report.restarts = 0
  slots : ∀ s ∈ report.producers, s.restarts = 0 ∧ s.faults = []
  publisher : report.publisher.isSome = c.publishes

theorem Sound.uncrashed (sound : Sound c m) : ¬m.TaskCrashed := by
  rintro (⟨i, t, k, found, crashed⟩ | ⟨k, crashed⟩)
  · exact (sound.supervisors i t found).alive k crashed
  · exact sound.aggregator.alive k crashed

theorem Reachable.flawless (h : Reachable c p m) (sound : Sound c m)
    {r : Except SimError SimReport} (phase : m.coordinator.phase = .ended r) :
    ∃ report, r = .ok report ∧ Flawless c report := by
  cases r with
  | error e => exact absurd (h.taskCrashed (h.blames.result e phase)) sound.uncrashed
  | ok report =>
    have handed {s : SlotReport} (hs : s ∈ m.supervisors.toList.filterMap Supervisor.handedIn?) :
        s.restarts = 0 ∧ s.faults = [] := by
      obtain ⟨t, ht, taken⟩ := List.mem_filterMap.mp hs
      obtain ⟨i, found⟩ := List.getElem?_of_mem ht
      have reported : t.report? = some s := by
        unfold Supervisor.handedIn? at taken
        split at taken
        · exact taken
        · cases taken
      exact (sound.supervisors i t (by simpa using found)).report s reported
    have slots {s : SlotReport} (hs : s ∈ report.producers) : s.restarts = 0 ∧ s.faults = [] :=
      handed ((h.reported_perm phase).mem_iff.mp hs.val)
    have published := (h.reckoned phase).publisher
    obtain ⟨failure, finishedAt, queue, _, rfl⟩ := h.collected.reported report phase
    refine ⟨_, rfl, ?_, fun _ => slots, ?_⟩
    · change SimReport.total SlotReport.restarts m.coordinator.slots.reverse = 0
      rw [SimReport.total_eq_sum, List.sum_eq_zero_iff_forall_eq_nat]
      intro n hn
      obtain ⟨s, hs, rfl⟩ := List.mem_map.mp hn
      exact (handed ((h.collected.slots failure).1.mem_iff.mp (List.mem_reverse.mp hs))).1
    · rw [published, ← h.accounted.present]
      cases present : m.publisher with
      | none =>
        rw [Option.isSome_none, Option.isSome_eq_false_iff, Option.isNone_iff_eq_none,
          Option.eq_none_iff_forall_ne_some]
        intro n taken
        obtain ⟨q, present', _⟩ := h.collected.watched _ (h.collected.published n taken)
        simp [present] at present'
      | some q =>
        obtain ⟨e, watched, published⟩ := h.collected.ended _ phase (by rw [present]; rfl)
        obtain ⟨q', present', ended⟩ := h.collected.watched e watched
        cases e with
        | returned n => simp [published n rfl]
        | crashed k => exact absurd ended ((sound.publisher q' present').intact k)

structure Unharmed (m : Simulation) : Prop where
  slots : ∀ t ∈ m.supervisors, t.faults = [] ∧ t.slot.restarts = 0
  supervisors : ¬m.SupervisorCrashed
  aggregator : ∀ k, m.aggregator.ending? ≠ some (.crashed k)
  publisher : ∀ q, m.publisher = some q → q.Intact

theorem Sound.unharmed (sound : Sound c m) : m.Unharmed where
  slots := by
    intro t ht
    obtain ⟨i, found⟩ := Array.getElem?_of_mem ht
    have safe := sound.supervisors i t found
    exact ⟨safe.faults, by rw [Slot.restarts, safe.recorded]; rfl⟩
  supervisors := fun ⟨i, t, k, found, crashed⟩ => (sound.supervisors i t found).alive k crashed
  aggregator := sound.aggregator.alive
  publisher := fun q present => (sound.publisher q present).intact

/-- Where the tasks of a cancelled run have stopped, it has ended or a publish is in flight. -/
theorem Reachable.ended_of_idle (h : Reachable c p m) (cancelled : m.scene.cancelled = true)
    (idle : machine.isIdle m = true) (alive : ∀ k, m.aggregator.ending? ≠ some (.crashed k)) :
    (∃ r, m.coordinator.phase = .ended r) ∨ ∃ q, m.publisher = some q ∧ q.flight?.isSome = true := by
  cases taken : m.coordinator.phase.hasAggregator with
  | false =>
    obtain ⟨⟨k, crashed⟩, _⟩ := h.stranded_of_idle cancelled idle taken
    exact absurd crashed (alive k)
  | true =>
    cases phase : m.coordinator.phase with
    | ended r => exact .inl ⟨r, rfl⟩
    | awaitingPublisher =>
      obtain ⟨q, present, ticker, r, pending, started, timeout, publishing⟩ :=
        h.publishing_of_stuck phase (isReady_of_isIdle idle)
      exact .inr ⟨q, present, by simp [Publisher.flight?, publishing]⟩
    | _ => simp [phase, CoordinatorPhase.hasAggregator] at taken

end Safe

/-- A simulation that was built and is given nothing that crashes. It starts if it need not hold too
many readings. While the first ticks can be represented, no task is lost and no slot faults. When
the tasks stop after the cancellation, the run has returned, unless a publish is in flight; and
whenever it has returned, it did so with a report, in which nothing is missing. -/
theorem never_crashes {c : Config} {p : Equipment} (built : check c p.broker.isSome = .ok ())
    (calm : p.Calm) :
    (c.capacity ≤ ReadingQueue.mostCapacity → ∃ m, start c p = .ok m) ∧
    ∀ m, Reachable c p m → Fits c m.scene.now →
      m.Unharmed ∧
      (m.scene.cancelled = true → machine.isIdle m = true →
        m.hasEnded = true ∨ ∃ q, m.publisher = some q ∧ q.flight?.isSome = true) ∧
      ∀ r, m.result? = some r → ∃ report, r = .ok report ∧ Flawless c report := by
  refine ⟨start_iff.mpr, fun m h fits => ?_⟩
  have sound := h.sound (validate_of_check built) calm fits
  have unharmed := sound.unharmed
  refine ⟨unharmed, fun cancelled idle => ?_, fun r result => h.flawless sound (phase_of_result? result)⟩
  rcases h.ended_of_idle cancelled idle unharmed.aggregator with ⟨r, phase⟩ | flying
  · exact .inl (by simp [hasEnded, result?, phase])
  · exact .inr flying

/-- One producer, one tick, one publish. -/
theorem unharmed_over_one_tick :
    ∃ (c : Config) (p : Equipment) (m : Simulation) (report : SimReport),
      check c p.broker.isSome = .ok () ∧ p.Calm ∧ Reachable c p m ∧ Fits c m.scene.now ∧
      m.result? = some (.ok report) ∧ report.sent = 1 ∧ m.Unharmed ∧ Flawless c report := by
  let c : Config := { producers := 1, capacity := 1, publishes := true }
  let p : Equipment :=
    { clock := .fixed default, sources := fun _ _ _ => .source fun _ => .value default
      broker := some { kind := .recording } }
  let cues : List Cue := [.event .publisher, .event .aggregator, .event (.supervisor 0),
    .event (.run 0), .time 100000000, .event (.run 0), .event .aggregator, .event .publisher,
    .outside .cancel, .event (.shutdown .cancellation), .event (.run 0), .event (.supervisor 0),
    .event (.join 0), .event .coordinator, .event .aggregator, .event .aggregator,
    .event .coordinator, .event .publisher, .event .publisher, .event .publisher, .event .watcher,
    .event .coordinator]
  let hasSent (m : Simulation) : Bool :=
    decide (m.scene.now = 100000000) && m.report?.any fun report => report.sent = 1
  obtain ⟨m, reachable, sent⟩ : ∃ m, Reachable c p m ∧ hasSent m = true :=
    exists_reachable cues (by decide)
  simp only [hasSent, Bool.and_eq_true, decide_eq_true_eq] at sent
  obtain ⟨now, sent⟩ := sent
  obtain ⟨report, reported, one⟩ := (Option.any_eq_true _ _).mp sent
  rw [decide_eq_true_eq] at one
  have result := result?_of_phase (phase_of_report? reported)
  have built : check c p.broker.isSome = .ok () := rfl
  have calm : p.Calm := by
    refine ⟨fun _ _ _ => ⟨_, rfl, fun _ => ⟨_, rfl⟩⟩, ?_⟩
    rintro b ⟨⟩
    trivial
  have fits : Fits c m.scene.now := by
    rw [now]
    exact ⟨by decide, by decide⟩
  obtain ⟨unharmed, _, flawless⟩ := (never_crashes built calm).2 m reachable fits
  obtain ⟨_, same, flawless⟩ := flawless _ result
  cases same
  exact ⟨c, p, m, report, built, calm, reachable, fits, result, one, unharmed, flawless⟩

end Simulation

/-! ## Intervals that do not fit -/

/-- No ticker is made of an interval as long as the range of the clock. -/
theorem Ticker.start?_of_overlong {period : Nat} (overlong : Instant.limit ≤ period) (now : Nat) :
    start? now period = .error .outOfRange := by
  have never : Instant.after? now period = none := by
    unfold Instant.after?
    exact if_neg (Nat.not_lt_of_le (Nat.le_add_left_of_le overlong))
  exact start?_of_never never

/-- An aggregator that cannot make its ticker crashes at its first step. -/
theorem Aggregator.step_overlong {a : Aggregator} (overlong : Instant.limit ≤ a.summaryInterval)
    (unused : a.isUnused = true) (s : Scene) :
    (a.step s).1.isUnused = true ∧ (a.step s).1.summaryInterval = a.summaryInterval := by
  unfold step
  cases phase : a.phase with
  | created =>
    dsimp only [start]
    rw [Ticker.start?_of_overlong overlong]
    exact ⟨rfl, rfl⟩
  | waiting ticker parked => simp [isUnused, phase] at unused
  | ended e => exact ⟨unused, rfl⟩

def Run.IsUnused (run : Run) : Prop :=
  run.phase = .created ∨ ∃ k, run.phase = .ended (.crashed k)

theorem Station.Acts.isUnused {t t' : Station} {s s' : Scene} (h : t.Acts s t' s')
    (overlong : Instant.limit ≤ t.run.interval) (unused : t.run.IsUnused) : t'.run.IsUnused := by
  have idle {ticker : Ticker} : t.run.phase ≠ .ticking ticker := by
    rcases unused with created | ⟨k, crashed⟩
    · simp [created]
    · simp [crashed]
  cases h with
  | stalls fault _ _ run' => exact .inr ⟨_, by rw [run']; rfl⟩
  | starts ticker _ made => simp [Ticker.start?_of_overlong overlong] at made
  | stops _ phase | crashes _ _ phase | samples _ _ _ phase => exact absurd phase idle
  | retries _ _ phase =>
    rcases unused with created | ⟨k, crashed⟩
    · simp [created] at phase
    · simp [crashed] at phase

structure Supervisor.Stalls (d : Nat) (t : Supervisor) : Prop where
  interval : t.interval = d
  run : ∀ station, t.phase = .supervising station →
    station.run.interval = d ∧ station.run.IsUnused

theorem Supervisor.Turns.stalls {t t' : Supervisor} {i : Nat} {s : Scene} (turns : t.Turns i s t')
    (proper : t.Proper) (lawful : t.Lawful) (opened : t.hasEnded = false → s.primary.isClosed = false)
    {d : Nat} (overlong : Instant.limit ≤ d) (h : t.Stalls d) : t'.Stalls d := by
  cases turns with
  | steps ready =>
    have proceeds := step_proceeds proper lawful (s := s) ready
    have same := proceeds.interval.trans h.interval
    cases proceeds.goes with
    | finishes _ _ phase => exact ⟨same, by simp [phase]⟩
    | dies _ _ _ _ phase => exact ⟨same, by simp [phase]⟩
    | launches source _ _ _ phase =>
      refine ⟨same, fun station supervising => ?_⟩
      rw [phase, SupervisorPhase.supervising.injEq] at supervising
      exact supervising ▸ ⟨h.interval, .inl rfl⟩
  | @runs station phase ready =>
    have acts := station.step_acts (.slot i) (Station.live_of_isReady ready)
      (opened (not_hasEnded_of_supervising phase))
    obtain ⟨kept, unused⟩ := h.run station phase
    rw [stepRun_eq phase]
    refine ⟨h.interval, ?_⟩
    rintro _ ⟨⟩
    exact ⟨acts.interval.trans kept, acts.isUnused (kept ▸ overlong) unused⟩
  | joins ended unjoined => exact ⟨h.interval, h.run⟩

namespace Simulation

section Overlong
variable {c : Config} {p : Equipment} {m : Simulation}

theorem Reachable.aggregator_overlong (h : Reachable c p m)
    (overlong : Instant.limit ≤ c.summaryInterval) : m.aggregator.isUnused = true := by
  suffices unused : m.aggregator.isUnused = true ∧ m.aggregator.summaryInterval = c.summaryInterval
    from unused.1
  refine h.invariant (P := fun m => m.aggregator.isUnused = true ∧
    m.aggregator.summaryInterval = c.summaryInterval) (fun started => ?_) fun _ turn hm => ?_
  · rw [(start_started started).aggregator]
    exact ⟨rfl, rfl⟩
  · obtain ⟨unused, kept⟩ := hm
    rcases turn.aggregator_step with same | after
    · exact same ▸ ⟨unused, kept⟩
    · obtain ⟨unused', kept'⟩ := Aggregator.step_overlong (kept ▸ overlong) unused _
      exact after ▸ ⟨unused', kept'.trans kept⟩

/-- Intervals that do not fit are accepted as well. No run of a producer comes to a tick then, and a
run of the simulation does not end well. -/
theorem Reachable.crashes_of_overlong (h : Reachable c p m) :
    (Instant.limit ≤ c.interval → ∀ (i : Nat) t, m.supervisors[i]? = some t → ∀ station,
      t.phase = .supervising station → station.run.IsUnused) ∧
    (Instant.limit ≤ c.summaryInterval → ∀ r, m.result? = some r →
      ∃ text, r = .error (.other text)) := by
  refine ⟨fun overlong i t found station phase => ?_, fun overlong r result => ?_⟩
  · have stalls : ∀ (i : Nat) t, m.supervisors[i]? = some t → t.Stalls c.interval := by
      refine h.invariant (P := fun m => ∀ (i : Nat) t, m.supervisors[i]? = some t →
        t.Stalls c.interval) (fun started i t found => ?_) fun prior turn hm => ?_
      · rw [(start_started started).found found]
        exact ⟨rfl, nofun⟩
      · exact turn.each hm fun {i t _} found turns =>
          turns.stalls (prior.staffed.member i t found).1 (prior.lawful i t found)
            (prior.ordered.opened found) overlong (hm i t found)
    exact ((stalls i t found).run station phase).2
  · have phase := phase_of_result? result
    have unused := h.aggregator_overlong overlong
    obtain ⟨e, ended⟩ := h.aggregator_ended (by rw [phase]; rfl)
    cases e with
    | returned n =>
      unfold Aggregator.ending? at ended
      unfold Aggregator.isUnused at unused
      split at ended
      next returned =>
        cases ended
        simp [returned] at unused
      next => cases ended
    | crashed k => exact h.result_of_crash ended phase

/-- An accepted configuration, ports that never crash, and an aggregator that crashes at once: the
run fails at its end. With the other interval as long, a producer is restarted time and again. -/
theorem crashed_for_an_interval :
    check (overlong 10) steadily.broker.isSome = .ok () ∧ steadily.Calm ∧
    (∃ m text, Reachable (overlong 10) steadily m ∧
      (∃ k, m.aggregator.ending? = some (.crashed k)) ∧
      m.result? = some (.error (.other text))) ∧
    check { overlong 10 with interval := Duration.longest } steadily.broker.isSome = .ok () ∧
    ∃ m, Reachable { overlong 10 with interval := Duration.longest } steadily m ∧
      m.scene.now = 0 ∧ ∃ t ∈ m.supervisors, t.slot.restarts = 3 := by
  have calm : steadily.Calm := ⟨fun _ _ _ => ⟨_, rfl, fun _ => ⟨_, rfl⟩⟩, nofun⟩
  let cues : List Cue := [.event .aggregator, .time 25000000, .event (.shutdown .duration),
    .event (.supervisor 0), .event (.join 0), .event .coordinator, .event .coordinator]
  let spin : List Cue := [.event (.supervisor 0), .event (.run 0)]
  obtain ⟨m, reachable, crashed⟩ : ∃ m, Reachable (overlong 10) steadily m ∧
      (m.hasEnded && isStranded m) = true := exists_reachable cues (by decide)
  obtain ⟨m', reachable', spun⟩ :
      ∃ m, Reachable { overlong 10 with interval := Duration.longest } steadily m ∧
        (decide (m.scene.now = 0) && m.supervisors[0]?.any fun t => t.slot.restarts = 3) = true :=
    exists_reachable (spin ++ spin ++ spin ++ [.event (.supervisor 0)]) (by decide)
  simp only [Bool.and_eq_true, isStranded, decide_eq_true_eq] at crashed spun
  obtain ⟨ended, _, crashed⟩ := crashed
  obtain ⟨r, result⟩ := Option.isSome_iff_exists.mp ended
  obtain ⟨text, rfl⟩ := reachable.crashes_of_overlong.2 (by decide) r result
  obtain ⟨t, found, restarts⟩ := (Option.any_eq_true _ _).mp spun.2
  exact ⟨rfl, calm, ⟨m, text, reachable, ⟨_, crashed⟩, result⟩, rfl, m', reachable', spun.1, t,
    Array.mem_of_getElem? found, of_decide_eq_true restarts⟩

end Overlong
end Simulation

end SensorFleet
