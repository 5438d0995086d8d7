import SensorFleet.Proofs.Fleet.Pace
import SensorFleet.Proofs.Fleet.PublishAccounts

/-!
How long a shutdown takes. Everything up to the end of the aggregator takes no time at all once the
run is cancelled. From then on only a publish in flight lets time pass, and it is given up when the
deadline of the publisher rings, which is set at the instant of the cancellation.
-/
namespace SensorFleet

/-- A publish that waits does so for a length of time from now on. -/
theorem Broker.start_alarm {b b' : Broker} {now : Nat} {m : Message} {pending : PendingPublish}
    (h : b.start now m = (.waiting pending, b')) :
    ∃ d, pending.alarm = Instant.after? now d := by
  unfold start at h
  dsimp only at h
  split at h
  · split at h
    · cases h
    · injection h with h
      injection h with h
      exact ⟨_, congrArg PendingPublish.alarm h.symm⟩
  · split at h
    · cases h
    · split at h
      · cases h
      · injection h with h
        injection h with h
        exact ⟨_, congrArg PendingPublish.alarm h.symm⟩

namespace Publisher

/-- Whatever is in flight was begun before the deadline, and waits for alarms that can come. -/
def Limited (q : Publisher) : Prop :=
  ∀ ticker r pending started timeout, q.phase = .publishing ticker r pending started timeout →
    q.abandoned = false ∧ (∀ a, pending.alarm = some a → a < Instant.limit) ∧
      ∀ a, timeout = some a → a < Instant.limit

structure Heeds (q : Publisher) (s : Scene) (q' : Publisher) : Prop where
  drainTimeout : q'.drainTimeout = q.drainTimeout
  deadline : q'.deadline = q.deadline ∧
      (q'.abandoned = q.abandoned ∨ q.deadlinePassed s = true) ∨
    q.seesCancellation s = true ∧
      q'.deadline = .set (q.drainTimeout.bind (Instant.graceEnd? s.now))
  limited : q'.Limited

section Steps
variable {q : Publisher} {s s₁ : Scene} {ticker : Ticker} {r : Reading}

theorem limited_of_phase {phase : PublisherPhase} (h : q.phase = phase)
    (still : ∀ ticker r pending started timeout,
      phase ≠ .publishing ticker r pending started timeout) : q.Limited := by
  intro ticker r pending started timeout hp
  exact absurd (h.symm.trans hp) (still ticker r pending started timeout)

theorem settle_heeds (outcome : PublishOutcome) : q.Heeds s (q.settle s₁ ticker r outcome).1 := by
  cases outcome <;>
    exact ⟨rfl, .inl ⟨rfl, .inl rfl⟩, @limited_of_phase _ (.waiting ticker false) rfl nofun⟩

theorem conclude_heeds (started : Nat) (answer : Answer) :
    q.Heeds s (q.conclude s₁ ticker r started answer).1 := by
  cases answer with
  | accepted | failed e => exact settle_heeds _
  | crashed c =>
    exact ⟨rfl, .inl ⟨rfl, .inl rfl⟩, @limited_of_phase _ (.ended (.crashed c)) rfl nofun⟩

theorem publish_heeds : q.Heeds s (q.publish s₁ ticker r).1 := by
  unfold publish
  split
  · exact settle_heeds _
  next going =>
    split
    · exact settle_heeds _
    · dsimp only
      split
      · exact conclude_heeds _ _
      next pending b waits =>
        refine ⟨rfl, .inl ⟨rfl, .inl rfl⟩, ?_⟩
        intro ticker' r' pending' started' timeout' hp
        injection hp with _ _ hpending _ htimeout
        obtain ⟨d, alarm⟩ := Broker.start_alarm waits
        refine ⟨by simpa using going, fun a ha => ?_, fun a ha => ?_⟩
        · exact Instant.lt_limit_of_after (alarm.symm.trans (hpending ▸ ha))
        · exact Instant.lt_limit_of_after (htimeout.trans ha)

theorem stepWaiting_heeds (phase : q.phase = .waiting ticker parked) :
    q.Heeds s (q.stepWaiting s ticker parked).1 := by
  have waits {q' : Publisher} (drain : q'.drainTimeout = q.drainTimeout)
      (deadline : q'.deadline = q.deadline ∧
        (q'.abandoned = q.abandoned ∨ q.deadlinePassed s = true))
      {ticker' : Ticker} {parked' : Bool} (phase' : q'.phase = .waiting ticker' parked') :
      q.Heeds s q' := ⟨drain, .inl deadline, limited_of_phase phase' nofun⟩
  unfold stepWaiting
  dsimp only
  split
  · exact waits rfl ⟨rfl, .inl rfl⟩ rfl
  · split
    next sees => exact ⟨rfl, .inr ⟨sees, rfl⟩, limited_of_phase phase nofun⟩
    · split
      next passed => exact waits rfl ⟨rfl, .inr passed⟩ rfl
      · split
        · exact waits rfl ⟨rfl, .inl rfl⟩ rfl
        · split
          · exact publish_heeds
          · exact ⟨rfl, .inl ⟨rfl, .inl rfl⟩,
              @limited_of_phase _ (.ended (.returned q.report)) rfl nofun⟩
          · exact waits rfl ⟨rfl, .inl rfl⟩ rfl

theorem stepPublishing_heeds (limited : q.Limited) {pending : PendingPublish} {started : Nat}
    {timeout : Option Nat} : q.Heeds s (q.stepPublishing s ticker r pending started timeout).1 := by
  unfold stepPublishing
  split
  · exact conclude_heeds _ _
  · split
    · exact conclude_heeds _ _
    · split
      next sees => exact ⟨rfl, .inr ⟨sees, rfl⟩, limited⟩
      · split
        next passed =>
          have settled : ({ q with abandoned := true } : Publisher).Heeds s _ :=
            @settle_heeds _ s (s.log (.deadlinePassedMidPublish r.producer)) ticker r .dropped
          exact ⟨settled.drainTimeout, .inl ⟨rfl, .inr passed⟩, settled.limited⟩
        · exact ⟨rfl, .inl ⟨rfl, .inl rfl⟩, limited⟩

theorem step_heeds (limited : q.Limited) (s : Scene) : q.Heeds s (q.step s).1 := by
  unfold step
  split
  · unfold start
    split
    · exact ⟨rfl, .inl ⟨rfl, .inl rfl⟩, limited_of_phase rfl nofun⟩
    · exact ⟨rfl, .inl ⟨rfl, .inl rfl⟩, limited_of_phase rfl nofun⟩
  next phase => exact stepWaiting_heeds phase
  · exact stepPublishing_heeds limited
  · exact ⟨rfl, .inl ⟨rfl, .inl rfl⟩, limited⟩

end Steps

/-- After the cancellation the deadline is set at once. -/
theorem isReady_of_unset {q : Publisher} {s : Scene} (live : q.ending? = none)
    (cancelled : s.cancelled = true) (unset : q.deadline = .unset) (going : q.abandoned = false) :
    q.isReady s = true := by
  have sees : q.seesCancellation s = true := by simp [seesCancellation, cancelled, going, unset]
  unfold isReady
  cases phase : q.phase with
  | created => rfl
  | waiting ticker parked | publishing ticker r pending started timeout => simp [sees]
  | ended e => simp [ending?, phase] at live

/-- How the publisher stands to a cancellation at an instant, if there was one. Until its deadline
is set, no time passes. -/
structure Due (q : Publisher) (drain : Nat) (since : Option Nat) (now : Nat) : Prop where
  drainTimeout : q.drainTimeout = some drain
  limited : q.Limited
  deadline : (∃ t, since = some t ∧ q.deadline = .set (Instant.graceEnd? t drain)) ∨
    q.deadline = .unset ∧ q.abandoned = false ∧
      ∀ t, since = some t → q.ending? = none → now = t

theorem deadlinePassed_of_unset {q : Publisher} (h : q.deadline = .unset) (s : Scene) :
    q.deadlinePassed s = false := by
  simp [deadlinePassed, deadlineInstant?, h]

theorem Due.step {q : Publisher} {drain : Nat} {since : Option Nat} {s : Scene}
    (h : q.Due drain since s.now) (cancelled : s.cancelled = since.isSome)
    (ready : q.isReady s = true) : (q.step s).1.Due drain since s.now := by
  have live := live_of_isReady ready
  obtain ⟨drainTimeout, deadline, limited⟩ := step_heeds h.limited s
  refine ⟨drainTimeout.trans h.drainTimeout, limited, ?_⟩
  rcases deadline with ⟨same, abandoned⟩ | ⟨sees, set⟩
  · rcases h.deadline with ⟨t, ht, before⟩ | ⟨unset, going, prompt⟩
    · exact .inl ⟨t, ht, same.trans before⟩
    · refine .inr ⟨same.trans unset, ?_, fun t ht _ => prompt t ht live⟩
      rcases abandoned with same | passed
      · exact same.trans going
      · simp [deadlinePassed_of_unset unset] at passed
  · simp only [seesCancellation, Bool.and_eq_true, decide_eq_true_eq] at sees
    obtain ⟨t, ht⟩ := Option.isSome_iff_exists.mp (cancelled.symm.trans sees.1.1)
    rcases h.deadline with ⟨_, _, before⟩ | ⟨_, _, prompt⟩
    · simp [sees.2] at before
    · rw [h.drainTimeout, Option.bind_some, prompt t ht live] at set
      exact .inl ⟨t, ht, set⟩

/-- A publish is in flight that nothing will ever end, not even a deadline. -/
def Hangs (q : Publisher) : Prop :=
  ∃ ticker r pending started, q.phase = .publishing ticker r pending started none ∧
    pending.alarm = none ∧ q.deadline = .set none

theorem Hangs.live {q : Publisher} (h : q.Hangs) : q.ending? = none := by
  obtain ⟨ticker, r, pending, started, phase, _⟩ := h
  simp [ending?, phase]

theorem Hangs.stuck {q : Publisher} (h : q.Hangs) (s : Scene) : q.isReady s = false := by
  obtain ⟨ticker, r, pending, started, phase, alarm, deadline⟩ := h
  simp [isReady, phase, alarm, seesCancellation, deadlinePassed, deadlineInstant?, deadline,
    Instant.hasRung]

/-- A publish that is in flight after the cancellation hangs, or waits for an alarm that rings
before the drain timeout is over. -/
theorem Due.hangs_or_rings {q : Publisher} {drain t : Nat} {s : Scene}
    (h : q.Due drain (some t) s.now) (cancelled : s.cancelled = true) (stuck : q.isReady s = false)
    {ticker : Ticker} {r : Reading} {pending : PendingPublish} {started : Nat}
    {timeout : Option Nat} (phase : q.phase = .publishing ticker r pending started timeout) :
    q.Hangs ∨ ∃ a ∈ q.alarms, s.now < Instant.ring a ∧
      Instant.ring a ≤ Instant.ring (t + drain) := by
  obtain ⟨going, pendingLimit, timeoutLimit⟩ := h.limited _ _ _ _ _ phase
  have live : q.ending? = none := by simp [ending?, phase]
  have set : q.deadline = .set (Instant.graceEnd? t drain) := by
    rcases h.deadline with ⟨t', ht, set⟩ | ⟨unset, _⟩
    · exact Option.some.inj ht ▸ set
    · simp [isReady_of_unset live cancelled unset going] at stuck
  have passes : q.deadlineInstant? = Instant.graceEnd? t drain := by
    simp [deadlineInstant?, set, going]
  simp only [isReady, phase, Bool.or_eq_false_iff] at stuck
  obtain ⟨⟨⟨pendingStuck, timeoutStuck⟩, _⟩, deadlineStuck⟩ := stuck
  rw [deadlinePassed, passes] at deadlineStuck
  simp only [alarms, phase, passes, List.mem_append, Option.mem_toList]
  cases ends : Instant.graceEnd? t drain with
  | some D =>
    simp only [ends, Option.any_some, decide_eq_false_iff_not, Nat.not_le] at deadlineStuck
    refine .inr ⟨D, .inr rfl, Nat.lt_of_lt_of_le deadlineStuck (Instant.le_ring D), ?_⟩
    rcases Instant.graceEnd?_cases ends with ⟨rfl, rfl⟩ | ⟨_, rfl⟩
    · exact Nat.le_refl _
    · exact (Instant.ring_ring _).le
  | none =>
    have far := Instant.limit_le_of_graceEnd? ends
    have before {a : Nat} (ha : a < Instant.limit) : Instant.ring a ≤ Instant.ring (t + drain) :=
      Instant.ring_mono (by omega)
    cases ha : pending.alarm with
    | some a =>
      rw [ha] at pendingStuck
      exact .inr ⟨a, .inl (.inl rfl), Instant.lt_ring_of_not_hasRung pendingStuck,
        before (pendingLimit a ha)⟩
    | none =>
      cases timeout with
      | some a =>
        exact .inr ⟨a, .inl (.inr rfl), Instant.lt_ring_of_not_hasRung timeoutStuck,
          before (timeoutLimit a rfl)⟩
      | none => exact .inl ⟨ticker, r, pending, started, phase, ha, ends ▸ set⟩

end Publisher

namespace Simulation

theorem Turn.publisher_step {m m' : Simulation} (turn : Turn m m') :
    m'.publisher = m.publisher ∨ ∃ q, m.publisher = some q ∧ q.isReady m.scene = true ∧
      m'.publisher = some (q.step m.scene).1 := by
  cases turn with
  | joinAggregator phase ended => exact .inl (joinAggregator_takes m _).keeps.publisher
  | joinPublisher phase watched => exact .inl (joinPublisher_takes m _).keeps.publisher
  | @publisher q present ready => exact .inr ⟨q, present, ready, rfl⟩
  | @join i left t phase found ended unjoined => exact .inl (join_joins phase ended i).publisher
  | _ => exact .inl rfl

theorem eq_now_of_cancelledNow? {m : Simulation} {t : Nat} (h : m.cancelledNow? = some t) :
    t = m.scene.now := by
  simp only [cancelledNow?, Option.ite_none_right_eq_some, Option.some.injEq] at h
  exact h.2.symm

/-- An instant of the first cancellation was there before, or is the present. -/
theorem since_or {m : Simulation} {since : Option Nat} {t : Nat}
    (h : since.or m.cancelledNow? = some t) : since = some t ∨ since = none ∧ t = m.scene.now := by
  cases since with
  | some t' => exact .inl h
  | none => exact .inr ⟨rfl, eq_now_of_cancelledNow? h⟩

theorem Timed.due {c : Config} {p : Equipment} {since : Option Nat} {m : Simulation}
    (h : Timed c p since m) {q : Publisher} (present : m.publisher = some q) :
    q.Due c.drainTimeout since m.scene.now := by
  refine h.invariant (P := fun since m => ∀ q, m.publisher = some q →
    q.Due c.drainTimeout since m.scene.now) ?_ ?_ ?_ q present
  · intro m started q present
    rw [(start_started started).publisher, publisherOf] at present
    split at present
    · injection present with present
      subst present
      exact ⟨rfl, Publisher.limited_of_phase rfl (by simp),
        .inr ⟨rfl, rfl, fun t ht _ => (eq_now_of_cancelledNow? ht).symm⟩⟩
    · cases present
  · intro since m m' prior turn now hm q' present'
    have due : q'.Due c.drainTimeout since m.scene.now := by
      rcases turn.publisher_step with same | ⟨q, present, ready, after⟩
      · exact hm q' (same ▸ present')
      · rw [after, Option.some.injEq] at present'
        exact present' ▸ (hm q present).step prior.cancelled ready
    refine ⟨due.drainTimeout, due.limited, ?_⟩
    rcases due.deadline with ⟨t, rfl, set⟩ | ⟨unset, going, prompt⟩
    · exact .inl ⟨t, rfl, set⟩
    · refine .inr ⟨unset, going, fun t ht live => ?_⟩
      rcases since_or ht with before | ⟨_, rfl⟩
      · exact now.trans (prompt t before live)
      · rfl
  · intro since m t prior idle later alarms hm q present
    have present : m.publisher = some q := present
    have due := hm q present
    refine ⟨due.drainTimeout, due.limited, ?_⟩
    rcases due.deadline with set | ⟨unset, going, _⟩
    · exact .inl set
    · refine .inr ⟨unset, going, fun t' ht live => ?_⟩
      have cancelled : m.scene.cancelled = true := by rw [prior.cancelled, ht]; rfl
      have ready := Publisher.isReady_of_unset live cancelled unset going
      have stuck := isReady_of_isIdle idle .publisher
      simp [isReady, present, ready] at stuck

/-- The aggregator has crashed, and a run waits for room that it will never get. -/
def Stranded (m : Simulation) : Prop :=
  (∃ e, m.aggregator.ending? = some (.crashed e)) ∧ ∃ i r, m.Holds i r

section Stranded
variable {c : Config} {p : Equipment} {m m' : Simulation}

theorem Turn.stranded (turn : Turn m m') (h : Reachable c p m) (hm : m.Stranded) :
    m'.Stranded := by
  obtain ⟨⟨e, crashed⟩, i, r, holds⟩ := hm
  exact ⟨⟨e, turn.crashed crashed⟩, i, r,
    turn.holds h (Aggregator.isUnused_of_crashed crashed) holds⟩

theorem Reachable.not_isPast_of_stranded (h : Reachable c p m) (stranded : m.Stranded) :
    m.coordinator.phase.isPast = false := by
  obtain ⟨⟨e, crashed⟩, i, r, holds⟩ := stranded
  rw [← h.ordered.closed]
  exact (h.held (Aggregator.isUnused_of_crashed crashed) holds).1

/-- After the cancellation nobody waits for the aggregator unless it has crashed. -/
theorem Reachable.stranded_of_idle (h : Reachable c p m) (cancelled : m.scene.cancelled = true)
    (idle : machine.isIdle m = true) (early : m.coordinator.phase.hasAggregator = false) :
    m.Stranded := by
  have stuck := isReady_of_isIdle idle
  have busy {P : Prop} (ready : ∃ e, m.isReady e = true) : P := by
    obtain ⟨e, he⟩ := ready
    simp [stuck e] at he
  cases phase : m.coordinator.phase with
  | running duration interrupt =>
    exact busy ⟨.shutdown .cancellation, by simp [isReady, isCause, phase, cancelled]⟩
  | joining left =>
    by_cases alive : ∀ e, m.aggregator.ending? ≠ some (.crashed e)
    · exact busy (h.ready_of_joining alive phase)
    · obtain ⟨e, crashed⟩ := not_forall_not.mp alive
      obtain ⟨i, t, found, pending⟩ := h.exists_pending phase stuck
      obtain ⟨r, hr⟩ := Option.isSome_iff_exists.mp pending
      exact ⟨⟨e, crashed⟩, i, r, t, found, hr⟩
  | awaitingAggregator =>
    by_cases alive : ∀ e, m.aggregator.ending? ≠ some (.crashed e)
    · exact busy (h.ready_of_awaitingAggregator alive phase)
    · obtain ⟨e, crashed⟩ := not_forall_not.mp alive
      exact busy ⟨.coordinator, by simp [isReady, coordinatorReady, phase, crashed]⟩
  | awaitingPublisher | ended r => simp [phase, CoordinatorPhase.hasAggregator] at early

end Stranded

def Hung (m : Simulation) : Prop := ∃ q, m.publisher = some q ∧ q.Hangs

theorem Turn.hung {m m' : Simulation} (turn : Turn m m') (hm : m.Hung) : m'.Hung := by
  obtain ⟨q, present, hangs⟩ := hm
  rcases turn.publisher_step with same | ⟨q', present', ready, _⟩
  · exact ⟨q, same.trans present, hangs⟩
  · rw [present, Option.some.injEq] at present'
    simp [← present', hangs.stuck] at ready

theorem conclude_endedAt (m : Simulation) : m.conclude.coordinator.endedAt = m.scene.now := by
  unfold conclude
  split
  · rfl
  · dsimp only [endWith]
    split <;> rfl

theorem joinAggregator_endedAt {m : Simulation} (e : Ending AggregatorReport)
    (absent : m.publisher = none) : (m.joinAggregator e).coordinator.endedAt = m.scene.now := by
  cases e with
  | returned n =>
    simpa [joinAggregator_returned, handOver, absent] using conclude_endedAt _
  | crashed k =>
    rw [joinAggregator_crashed, handOver, if_neg (by simp [failTask, fail, log, absent])]
    exact conclude_endedAt _

theorem joinPublisher_endedAt (m : Simulation) (e : Ending PublisherReport) :
    (m.joinPublisher e).coordinator.endedAt = m.scene.now := by
  cases e with
  | returned q => exact (conclude_endedAt _).trans (closeBroker_sameSupply _).now
  | crashed k => exact (conclude_endedAt _).trans (closeBroker_sameSupply _).now

/-- Once the aggregator's result was taken, only two turns concern the coordinator. -/
theorem Turn.late {m m' : Simulation} (turn : Turn m m')
    (taken : m'.coordinator.phase.hasAggregator = true) :
    m'.coordinator = m.coordinator ∨
      (∃ e, m.coordinator.phase = .awaitingAggregator ∧ m' = m.joinAggregator e) ∨
      ∃ e, m.coordinator.phase = .awaitingPublisher ∧ m.watched = some e ∧
        m' = m.joinPublisher e := by
  cases turn with
  | shutdown cause phase | closeQueue phase => cases taken
  | joinAggregator phase ended => exact .inr (.inl ⟨_, phase, rfl⟩)
  | joinPublisher phase watched => exact .inr (.inr ⟨_, phase, watched, rfl⟩)
  | @join i left t phase found ended unjoined =>
    rw [(join_joins phase ended i).phase] at taken
    cases taken
  | _ => exact .inl rfl

structure InTime (c : Config) (since : Option Nat) (m : Simulation) : Prop where
  early : ∀ t, since = some t → m.coordinator.phase.hasAggregator = false →
    m.scene.now = t ∨ m.Stranded
  awaiting : ∀ t, since = some t → m.coordinator.phase = .awaitingPublisher →
    m.scene.now ≤ Instant.ring (t + c.drainTimeout) ∨ m.Hung
  ended : ∀ t, since = some t → ∀ r, m.coordinator.phase = .ended r →
    if c.publishes then
      t ≤ m.coordinator.endedAt ∧ m.coordinator.endedAt ≤ Instant.ring (t + c.drainTimeout)
    else m.coordinator.endedAt = t

section InTime
variable {c : Config} {p : Equipment} {m m' : Simulation} {since : Option Nat}

/-- No time has passed when the result of the aggregator is taken. -/
theorem InTime.prompt (h : InTime c since m) (reachable : Reachable c p m) {t : Nat}
    (ht : since = some t) (phase : m.coordinator.phase = .awaitingAggregator) :
    m.scene.now = t := by
  refine (h.early t ht (by rw [phase]; rfl)).resolve_right fun stranded => ?_
  have early := reachable.not_isPast_of_stranded stranded
  simp [phase, CoordinatorPhase.isPast] at early

/-- When the result of the publisher is taken, the limit is kept. -/
theorem InTime.limit (h : InTime c since m) (reachable : Reachable c p m) {t : Nat}
    (ht : since = some t) (phase : m.coordinator.phase = .awaitingPublisher)
    {e : Ending PublisherReport} (watched : m.watched = some e) :
    m.scene.now ≤ Instant.ring (t + c.drainTimeout) := by
  refine (h.awaiting t ht phase).resolve_right fun ⟨q, present, hangs⟩ => ?_
  obtain ⟨q', present', ended⟩ := reachable.collected.watched e watched
  rw [present, Option.some.injEq] at present'
  simp [← present', hangs.live] at ended

theorem Turn.inTime (turn : Turn m m') (prior : Timed c p since m)
    (now : m'.scene.now = m.scene.now) (h : InTime c since m) :
    InTime c (since.or m'.cancelledNow?) m' := by
  have reachable := prior.reachable
  -- a turn of the shutdown that is not its first finds the run cancelled
  have before {t : Nat} (ht : since.or m'.cancelledNow? = some t)
      (shut : m.coordinator.phase.isRunning = false) : since = some t := by
    refine (since_or ht).resolve_right fun ⟨unset, _⟩ => ?_
    have cancelled := reachable.ordered.cancelled shut
    simp [prior.cancelled, unset] at cancelled
  have publishes : m.publisher.isSome = c.publishes := reachable.accounted.present
  refine ⟨fun t ht early => ?_, fun t ht phase' => ?_, fun t ht r phase' => ?_⟩
  · rcases since_or ht with known | ⟨_, rfl⟩
    · have early₀ : m.coordinator.phase.hasAggregator = false := by
        rw [Bool.eq_false_iff]
        exact fun taken => by simp [turn.hasAggregator taken] at early
      exact (h.early t known early₀).imp now.trans (turn.stranded reachable)
    · exact .inl rfl
  · rcases turn.late (by rw [phase']; rfl) with same | ⟨e, phase, rfl⟩ | ⟨e, phase, watched, rfl⟩
    · rw [same] at phase'
      have known := before ht (by rw [phase']; rfl)
      exact (h.awaiting t known phase').imp (now.le.trans ·) turn.hung
    · have prompt := h.prompt reachable (before ht (by rw [phase]; rfl)) phase
      rw [now, prompt]
      exact .inl (Nat.le_trans (Nat.le_add_right _ _) (Instant.le_ring _))
    · obtain ⟨r, ended, _⟩ := (joinPublisher_takes m e).phase
      simp [ended] at phase'
  · rcases turn.late (by rw [phase']; rfl) with same | ⟨e, phase, rfl⟩ | ⟨e, phase, watched, rfl⟩
    · rw [same] at phase' ⊢
      exact h.ended t (before ht (by rw [phase']; rfl)) r phase'
    · have takes := (joinAggregator_takes m e).phase
      cases present : m.publisher with
      | some q => simp [present, phase'] at takes
      | none =>
        rw [present, Option.isSome_none] at publishes
        rw [← publishes, joinAggregator_endedAt e present]
        exact h.prompt reachable (before ht (by rw [phase]; rfl)) phase
    · have present := reachable.collected.awaits phase
      have known := before ht (by rw [phase]; rfl)
      rw [← publishes, present, joinPublisher_endedAt]
      exact ⟨(known ▸ prior).le_now, h.limit reachable known phase watched⟩

/-- While nobody can go on, time passes no further than the limit. -/
theorem InTime.pass {t : Nat} (h : InTime c since m) (prior : Timed c p since m)
    (idle : machine.isIdle m = true)
    (alarms : ∀ a ∈ m.alarms, Instant.ring a ≤ m.scene.now ∨ t ≤ Instant.ring a) :
    InTime c since { m with scene := { m.scene with now := t } } := by
  have reachable := prior.reachable
  have cancelled {t₀ : Nat} (ht : since = some t₀) : m.scene.cancelled = true := by
    rw [prior.cancelled, ht]
    rfl
  refine ⟨fun t₀ ht early => .inr ?_, fun t₀ ht phase => ?_, h.ended⟩
  · exact reachable.stranded_of_idle (cancelled ht) idle early
  · have stuck := isReady_of_isIdle idle
    obtain ⟨q, present, ticker, r, pending, started, timeout, publishing⟩ :=
      reachable.publishing_of_stuck phase stuck
    have unready : q.isReady m.scene = false := by simpa [isReady, present] using stuck .publisher
    have due := prior.due present
    rw [ht] at due
    rcases due.hangs_or_rings (cancelled ht) unready publishing with hangs | ⟨a, ha, waits, limit⟩
    · exact .inr ⟨q, present, hangs⟩
    · have listed : a ∈ m.alarms := by simp [Simulation.alarms, present, ha]
      have later := (alarms a listed).resolve_left (Nat.not_le_of_lt waits)
      exact .inl (Nat.le_trans later limit)

theorem Timed.inTime (h : Timed c p since m) : InTime c since m := by
  refine h.invariant ?_ (fun prior turn now hm => turn.inTime prior now hm)
    fun prior idle _ alarms hm => hm.pass prior idle alarms
  intro m started
  obtain ⟨duration, interrupt, phase⟩ := (start_started started).phase
  exact ⟨fun t ht _ => .inl (eq_now_of_cancelledNow? ht).symm, by simp [phase], by simp [phase]⟩

/-- At the pace of the clock, a run that has ended was cancelled before, by whoever. Without
publishing it ended at that very instant, and with publishing at the latest when an alarm rings that
is set to the drain timeout. Nothing else matters, neither what the broker does or how long it
takes, nor what is left in the queues. -/
theorem Timed.ends_in_time (h : Timed c p since m) {r : Except SimError SimReport}
    (phase : m.coordinator.phase = .ended r) :
    ∃ t, since = some t ∧
      if c.publishes then
        t ≤ m.coordinator.endedAt ∧ m.coordinator.endedAt ≤ Instant.ring (t + c.drainTimeout)
      else m.coordinator.endedAt = t := by
  have cancelled := h.reachable.ordered.cancelled (by rw [phase]; rfl)
  rw [h.cancelled] at cancelled
  obtain ⟨t, ht⟩ := Option.isSome_iff_exists.mp cancelled
  exact ⟨t, ht, h.inTime.ended t ht r phase⟩

/-- A publish that takes ten seconds is given up when the drain timeout of half a second is over. -/
theorem ended_amid_a_publish :
    ∃ (c : Config) (p : Equipment) (since : Option Nat) (m : Simulation)
      (r : Except SimError SimReport), Timed c p since m ∧ m.coordinator.phase = .ended r ∧
      since = some 100000000 ∧ m.coordinator.endedAt = 600000000 ∧ c.publishes = true ∧
      m.coordinator.endedAt ≤ Instant.ring (100000000 + c.drainTimeout) := by
  let c : Config := { producers := 1, capacity := 1, publishes := true, drainTimeout := 500000000 }
  let p : Equipment :=
    { clock := .fixed default, sources := fun _ _ _ => .source fun _ => .value default
      broker := some { kind := .recording, delay := 10000 } }
  let cues : List Cue := [.event .publisher, .event .publisher, .event .aggregator,
    .event .aggregator, .event (.supervisor 0), .event (.run 0), .time 100000000,
    .event (.run 0), .event .aggregator, .event .publisher, .outside .cancel,
    .event (.shutdown .cancellation), .event (.run 0), .event (.supervisor 0), .event (.join 0),
    .event .coordinator, .event .aggregator, .event .aggregator, .event .coordinator,
    .event .publisher, .time 600000000, .event .publisher, .event .publisher, .event .publisher,
    .event .watcher, .event .coordinator]
  let isCut (since : Option Nat) (m : Simulation) : Bool :=
    decide (since = some 100000000) && decide (m.coordinator.endedAt = 600000000) && m.hasEnded
  obtain ⟨since, m, timed, cut⟩ : ∃ since m, Timed c p since m ∧ isCut since m = true :=
    exists_timed cues (by decide)
  simp only [isCut, Bool.and_eq_true, decide_eq_true_eq] at cut
  obtain ⟨⟨known, endedAt⟩, ended⟩ := cut
  cases phase : m.coordinator.phase with
  | ended r =>
    obtain ⟨t, ht, _, limit⟩ := timed.ends_in_time phase
    rw [known, Option.some.injEq] at ht
    subst ht
    exact ⟨c, p, since, m, r, timed, phase, known, endedAt, rfl, limit⟩
  | _ => simp [hasEnded, result?, phase] at ended

end InTime

end Simulation
end SensorFleet
