import SensorFleet.Proofs.Fleet.Books

/-!
Results and who takes them. A consumer that returns reports its counts and leaves a queue behind
that is closed and empty. The coordinator holds the reports of the supervisors that it joined, the
aggregator's from then on and the publisher's at the end, and makes its own report of them.
-/
namespace SensorFleet

/-- A channel that is closed and empty stays so. -/
def Channel.Sealed {ω α : Type} (q : Channel ω α) : Prop := q.isClosed = true ∧ q.buffer = []

theorem Channel.Ages.sealed {ω α : Type} {q q' : Channel ω α} (h : q.Ages q') (hq : q.Sealed) :
    q'.Sealed := ⟨h.closed hq.1, h.drained hq.1 hq.2⟩

/-- The aggregator returns its counts, at a queue that is closed and empty. -/
theorem Aggregator.Moves.returned {a a' : Aggregator} {s s' : Scene} (h : a.Moves s a' s')
    {n : AggregatorReport} (hn : a'.ending? = some (.returned n)) :
    n = a'.report ∧ s.primary.Sealed := by
  cases h with
  | starts alike created awake' report unreturned => exact absurd hn (unreturned n)
  | turns alike awake' report live => simp [live] at hn
  | takes r rest buffer woken hands awake' live => simp [live] at hn
  | stops s₁ buffer closed woken last alike ended report =>
    simp only [ending?, ended, Option.some.injEq, Ending.returned.injEq] at hn
    exact ⟨by rw [report, hn], closed, buffer⟩
  | parks buffer opened woken alike parked' report live => simp [live] at hn

theorem Publisher.Moves.returned {p p' : Publisher} {s s' : Scene} (h : p.Moves s p' s')
    {n : PublisherReport} (hn : p'.ending? = some (.returned n)) :
    n = p'.report ∧ (s.queue p.stage).Sealed := by
  have unreturned {n₁ : PublisherReport} {r : Reading} {s₁ : Scene}
      (hc : Concludes n₁ r s₁ p' s') : p'.ending? ≠ some (.returned n) := by
    cases hc with
    | settles b o settled alike total hand' awake' live => simp [live]
    | awaits b alike report hand' awake' live => simp [live]
    | crashes b c alike ended => simp [ended]
  cases h with
  | rests alike parked hand report unreturned => exact absurd hn (unreturned n)
  | turns alike hand hand' awake' report live => simp [live] at hn
  | takes r rest buffer woken hand next => exact absurd hn (unreturned next)
  | settles r hand awake next => exact absurd hn (unreturned next)
  | stops buffer closed woken hand alike ended report =>
    simp only [ending?, ended, Option.some.injEq, Ending.returned.injEq] at hn
    exact ⟨by rw [report, hn], closed, buffer⟩
  | parks buffer opened woken hand alike hand' parked' report live => simp [live] at hn

namespace Supervisor

def report? (t : Supervisor) : Option SlotReport :=
  match t.phase with
  | .ended (.returned (.ok report)) => some report
  | _ => none

/-- The report that was taken from it. -/
def handedIn? (t : Supervisor) : Option SlotReport := if t.joined then t.report? else none

theorem phase_of_report? {t : Supervisor} {report : SlotReport} (h : t.report? = some report) :
    t.phase = .ended (.returned (.ok report)) := by
  unfold report? at h
  split at h
  next r he => rw [he, Option.some.inj h]
  next => cases h

end Supervisor

namespace CoordinatorPhase

def hasAggregator : CoordinatorPhase → Bool
  | .awaitingPublisher | .ended _ => true
  | _ => false

end CoordinatorPhase

namespace Simulation

theorem Turn.aggregator_moves {m m' : Simulation} (turn : Turn m m') :
    m'.aggregator = m.aggregator ∨
      m.aggregator.ending? = none ∧ m.aggregator.Moves m.scene m'.aggregator m'.scene := by
  cases turn with
  | joinAggregator phase ended => exact .inl (joinAggregator_takes m _).keeps.aggregator
  | joinPublisher phase watched => exact .inl (joinPublisher_takes m _).keeps.aggregator
  | aggregator ready =>
    exact .inr ⟨Aggregator.live_of_isReady ready, Aggregator.step_moves _ _ ready⟩
  | @join i left t phase found ended unjoined => exact .inl (join_joins phase ended i).aggregator
  | _ => exact .inl rfl

theorem Turn.publisher_moves {m m' : Simulation} (turn : Turn m m') :
    m'.publisher = m.publisher ∨
      ∃ p p', m.publisher = some p ∧ m'.publisher = some p' ∧ p.ending? = none ∧
        p.Moves m.scene p' m'.scene := by
  cases turn with
  | joinAggregator phase ended => exact .inl (joinAggregator_takes m _).keeps.publisher
  | joinPublisher phase watched => exact .inl (joinPublisher_takes m _).keeps.publisher
  | @publisher p present ready =>
    exact .inr ⟨p, _, present, rfl, Publisher.live_of_isReady ready, Publisher.step_moves _ _ ready⟩
  | @join i left t phase found ended unjoined => exact .inl (join_joins phase ended i).publisher
  | _ => exact .inl rfl

theorem Turn.crashed {m m' : Simulation} (turn : Turn m m') {e : Crash}
    (crashed : m.aggregator.ending? = some (.crashed e)) :
    m'.aggregator.ending? = some (.crashed e) := by
  rcases turn.aggregator_moves with same | ⟨live, _⟩
  · rw [same, crashed]
  · simp [crashed] at live

/-- What the coordinator took from the aggregator it keeps. -/
theorem Turn.hasAggregator {m m' : Simulation} (turn : Turn m m')
    (taken : m.coordinator.phase.hasAggregator = true) :
    m'.coordinator.phase.hasAggregator = true := by
  cases turn with
  | shutdown cause phase | closeQueue phase => simp [phase, CoordinatorPhase.hasAggregator] at taken
  | joinAggregator phase ended => simp [phase, CoordinatorPhase.hasAggregator] at taken
  | joinPublisher phase watched =>
    obtain ⟨r, hr, _⟩ := (joinPublisher_takes m _).phase
    rw [hr]
    rfl
  | join phase found ended unjoined => simp [phase, CoordinatorPhase.hasAggregator] at taken
  | _ => exact taken

/-- The coordinator takes the aggregator's result when the aggregator has ended. -/
theorem Turn.takesAggregator {m m' : Simulation} (turn : Turn m m')
    (going : m.coordinator.phase.hasAggregator = false)
    (taken : m'.coordinator.phase.hasAggregator = true) :
    ∃ e, m.aggregator.ending? = some e ∧ m' = m.joinAggregator e := by
  cases turn with
  | shutdown cause phase => cases taken
  | closeQueue phase => cases taken
  | joinAggregator phase ended => exact ⟨_, ended, rfl⟩
  | joinPublisher phase watched => simp [phase, CoordinatorPhase.hasAggregator] at going
  | @join i left t phase found ended unjoined =>
    rw [(join_joins phase ended i).phase] at taken
    cases taken
  | _ => exact absurd (going.symm.trans taken) Bool.false_ne_true

theorem Reachable.aggregator_ended {c : Config} {p : Equipment} {m : Simulation}
    (h : Reachable c p m) (taken : m.coordinator.phase.hasAggregator = true) :
    ∃ e, m.aggregator.ending? = some e := by
  revert taken
  refine h.invariant (P := fun m => m.coordinator.phase.hasAggregator = true →
    ∃ e, m.aggregator.ending? = some e) (fun started taken => ?_) ?_
  · obtain ⟨duration, interrupt, phase⟩ := (start_started started).phase
    simp [phase, CoordinatorPhase.hasAggregator] at taken
  · intro m m' _ turn hm taken
    have ended : ∃ e, m.aggregator.ending? = some e := by
      cases going : m.coordinator.phase.hasAggregator with
      | true => exact hm going
      | false =>
        obtain ⟨e, ended, _⟩ := turn.takesAggregator going taken
        exact ⟨e, ended⟩
    obtain ⟨e, ended⟩ := ended
    rcases turn.aggregator_moves with same | ⟨live, _⟩
    · exact ⟨e, same ▸ ended⟩
    · simp [live] at ended

structure Drained (m : Simulation) : Prop where
  aggregator : ∀ n, m.aggregator.ending? = some (.returned n) →
    n = m.aggregator.report ∧ m.scene.primary.Sealed
  publisher : ∀ p n, m.publisher = some p → p.ending? = some (.returned n) →
    n = p.report ∧ m.scene.fanout.Sealed

theorem Turn.drained {m m' : Simulation} (turn : Turn m m') (waits : Waits m) (entry : Entry m m')
    (h : Drained m) : Drained m' := by
  obtain ⟨_, posts⟩ := entry.posts
  refine ⟨?_, ?_⟩
  · intro n hn
    rcases turn.aggregator_moves with same | ⟨_, moves⟩
    · rw [same] at hn ⊢
      obtain ⟨hr, sealed⟩ := h.aggregator n hn
      exact ⟨hr, (posts.ages .primary).sealed sealed⟩
    · obtain ⟨hr, sealed⟩ := moves.returned hn
      exact ⟨hr, (posts.ages .primary).sealed sealed⟩
  · intro p n present hn
    rcases turn.publisher_moves with same | ⟨q, q', before, after, _, moves⟩
    · rw [same] at present
      obtain ⟨hr, sealed⟩ := h.publisher p n present hn
      exact ⟨hr, (posts.ages .fanout).sealed sealed⟩
    · rw [after, Option.some.injEq] at present
      subst present
      obtain ⟨hr, sealed⟩ := moves.returned hn
      rw [waits.stage q before] at sealed
      exact ⟨hr, (posts.ages .fanout).sealed sealed⟩

theorem Started.drained {c : Config} {p : Equipment} {m : Simulation} (h : Started c p m) :
    Drained m := by
  refine ⟨fun n hn => ?_, fun q n present hn => ?_⟩
  · rw [h.aggregator] at hn
    cases hn
  · obtain ⟨_, created, _⟩ := h.publisher_created present
    simp [Publisher.ending?, created] at hn

theorem Reachable.drained {c : Config} {p : Equipment} {m : Simulation} (h : Reachable c p m) :
    Drained m :=
  h.invariant (fun started => (start_started started).drained) fun prior turn hm =>
    turn.drained prior.waits (prior.entry turn) hm

structure Collected (m : Simulation) : Prop where
  slots : m.coordinator.failure = none →
    m.coordinator.slots.Perm (m.supervisors.toList.filterMap Supervisor.handedIn?) ∧
      ∀ (i : Nat) t, m.supervisors[i]? = some t → t.joined = true → t.report?.isSome = true
  aggregated : m.coordinator.failure = none → m.coordinator.phase.hasAggregator = true →
    m.aggregator.ending? = some (.returned m.coordinator.aggregated)
  watched : ∀ e, m.watched = some e → ∃ p, m.publisher = some p ∧ p.ending? = some e
  published : ∀ q, m.coordinator.published = some q → m.watched = some (.returned q)
  awaits : m.coordinator.phase = .awaitingPublisher → m.publisher.isSome = true
  ended : ∀ r, m.coordinator.phase = .ended r → m.publisher.isSome = true →
    ∃ e, m.watched = some e ∧ ∀ q, e = .returned q → m.coordinator.published = some q
  reported : ∀ report, m.coordinator.phase = .ended (.ok report) →
    m.coordinator.Reports 0 report

namespace Collected
variable {m m' : Simulation}

theorem rest (h : Collected m) (coordinator : m'.coordinator = m.coordinator)
    (watched : m'.watched = m.watched)
    (slots : (m'.supervisors.toList.filterMap Supervisor.handedIn?).Perm
        (m.supervisors.toList.filterMap Supervisor.handedIn?) ∧
      ∀ (i : Nat) t', m'.supervisors[i]? = some t' → t'.joined = true → m.supervisors[i]? = some t')
    (aggregator : ∀ e, m.aggregator.ending? = some e → m'.aggregator.ending? = some e)
    (publisher : m'.publisher.isSome = m.publisher.isSome)
    (ending : ∀ p e, m.publisher = some p → p.ending? = some e → m'.publisher = some p) :
    Collected m' where
  slots := by
    intro failure
    rw [coordinator] at failure ⊢
    obtain ⟨perm, handed⟩ := h.slots failure
    exact ⟨perm.trans slots.1.symm, fun i t ht hj => handed i t (slots.2 i t ht hj) hj⟩
  aggregated := by
    rw [coordinator]
    exact fun failure phase => aggregator _ (h.aggregated failure phase)
  watched := by
    rw [watched]
    intro e he
    obtain ⟨p, present, ended⟩ := h.watched e he
    exact ⟨p, ending p e present ended, ended⟩
  published := by rw [coordinator, watched]; exact h.published
  awaits := by rw [coordinator, publisher]; exact h.awaits
  ended := by rw [coordinator, publisher, watched]; exact h.ended
  reported := by rw [coordinator]; exact h.reported

theorem replace (h : Collected m) {i : Nat} {t t' : Supervisor}
    (found : m.supervisors[i]? = some t) (unjoined : t.joined = false) (same : t'.joined = t.joined)
    (supervisors : m'.supervisors = m.supervisors.setIfInBounds i t')
    (coordinator : m'.coordinator = m.coordinator) (watched : m'.watched = m.watched)
    (aggregator : m'.aggregator = m.aggregator) (publisher : m'.publisher = m.publisher) :
    Collected m' := by
  have hf : m.supervisors.toList[i]? = some t := by simpa using found
  have hn : t.handedIn? = none := by simp [Supervisor.handedIn?, unjoined]
  have hn' : t'.handedIn? = none := by simp [Supervisor.handedIn?, same, unjoined]
  refine h.rest coordinator watched ⟨?_, ?_⟩ (by simp [aggregator]) (by rw [publisher])
    fun p e present _ => publisher ▸ present
  · have perm := filterMap_set_perm hf hn t'
    rw [hn'] at perm
    rw [supervisors, Array.toList_setIfInBounds]
    exact perm
  · intro j u hu hj
    rw [supervisors] at hu
    rcases found_of_set hu with ⟨_, rfl⟩ | ⟨_, hu⟩
    · simp [same, unjoined] at hj
    · exact hu

theorem join (h : Collected m) {i left : Nat} {t : Supervisor}
    (phase : m.coordinator.phase = .joining left) (found : m.supervisors[i]? = some t)
    (ended : t.hasEnded = true) (unjoined : t.joined = false) : Collected (m.join i t) := by
  have joins := join_joins phase ended i
  have hf : m.supervisors.toList[i]? = some t := by simpa using found
  have hn : t.handedIn? = none := by simp [Supervisor.handedIn?, unjoined]
  have perm := filterMap_set_perm hf hn { t with joined := true }
  have hp := joins.phase
  refine ⟨?_, ?_, ?_, ?_, ?_, ?_, ?_⟩
  · intro failure
    rcases joins.entry with ⟨report, ht, slots, same⟩ | ⟨_, failed⟩
    · rw [same] at failure
      obtain ⟨before, handed⟩ := h.slots failure
      have hr : Supervisor.report? { t with joined := true } = some report := by
        simp [Supervisor.report?, ht]
      have hi : Supervisor.handedIn? { t with joined := true } = some report := hr
      rw [joins.supervisors, Array.toList_setIfInBounds, slots]
      rw [hi] at perm
      refine ⟨(before.cons report).trans perm.symm, ?_⟩
      intro j u hu hj
      rcases found_of_set hu with ⟨_, rfl⟩ | ⟨_, hu⟩
      · simp [hr]
      · exact handed j u hu hj
    · exact absurd failure failed
  · simp [hp, CoordinatorPhase.hasAggregator]
  · rw [joins.watched, joins.publisher]
    exact h.watched
  · rw [joins.published, joins.watched]
    exact h.published
  · simp [hp]
  · simp [hp]
  · simp [hp]

theorem joinAggregator (h : Collected m) (ordered : Ordered m) {e : Ending AggregatorReport}
    (ended : m.aggregator.ending? = some e) : Collected (m.joinAggregator e) := by
  have takes := joinAggregator_takes m e
  have keeps := takes.keeps
  have phase := takes.phase
  refine ⟨?_, ?_, ?_, ?_, ?_, ?_, ?_⟩
  · intro failure
    rw [keeps.slots, keeps.supervisors]
    exact h.slots (takes.failure failure).1
  · intro failure _
    rw [keeps.aggregator, ended]
    exact congrArg some (takes.failure failure).2
  · rw [keeps.watched, keeps.publisher]
    exact h.watched
  · rw [takes.published, keeps.watched]
    exact h.published
  · intro hp
    rw [keeps.publisher]
    split at phase
    next present => exact present
    next => simp [hp] at phase
  · intro r hp present
    rw [keeps.publisher] at present
    simp [present, hp] at phase
  · intro report hp
    split at phase
    · simp [hp] at phase
    · obtain ⟨r, hr, result⟩ := phase
      rw [hp] at hr
      injection hr with hr
      exact ordered.late ▸ result report hr.symm

theorem joinPublisher (h : Collected m) (ordered : Ordered m)
    (phase : m.coordinator.phase = .awaitingPublisher) {e : Ending PublisherReport}
    (watched : m.watched = some e) : Collected (m.joinPublisher e) := by
  have takes := joinPublisher_takes m e
  have keeps := takes.keeps
  obtain ⟨r, hr, result⟩ := takes.phase
  refine ⟨?_, ?_, ?_, ?_, ?_, ?_, ?_⟩
  · rw [takes.failure, keeps.slots, keeps.supervisors]
    exact h.slots
  · rw [takes.failure, takes.aggregated, keeps.aggregator]
    exact fun failure _ => h.aggregated failure (by rw [phase]; rfl)
  · rw [keeps.watched, keeps.publisher]
    exact h.watched
  · intro q hq
    rw [keeps.watched]
    rcases takes.published q hq with rfl | hq
    · exact watched
    · exact h.published q hq
  · simp [hr]
  · intro r' _ _
    exact ⟨e, keeps.watched.trans watched, takes.returned⟩
  · intro report hp
    rw [hr] at hp
    injection hp with hp
    exact ordered.late ▸ result report hp

end Collected

theorem Turn.collected {c : Config} {m m' : Simulation} (turn : Turn m m') (staffed : Staffed c m)
    (ordered : Ordered m) (h : Collected m) : Collected m' := by
  cases turn with
  | shutdown cause phase =>
    exact ⟨h.slots, nofun, h.watched, h.published, nofun, nofun, nofun⟩
  | closeQueue phase =>
    rw [closeQueue_eq (ordered.opened_of_joining phase)]
    exact ⟨h.slots, nofun, h.watched, h.published, nofun, nofun, nofun⟩
  | joinAggregator phase ended => exact h.joinAggregator ordered ended
  | joinPublisher phase watched => exact h.joinPublisher ordered phase watched
  | @publisher p present ready =>
    refine h.rest rfl rfl ⟨.refl _, fun _ _ ht _ => ht⟩ (fun _ => id) (by simp [present]) ?_
    intro p' e before ended
    rw [present, Option.some.injEq] at before
    subst before
    simp [Publisher.live_of_isReady ready] at ended
  | @watcher p e unseen present ended =>
    refine ⟨h.slots, h.aggregated, ?_, ?_, h.awaits, ?_, h.reported⟩
    · intro e' he
      injection he with he
      exact ⟨p, present, he ▸ ended⟩
    · intro q hq
      have hw := h.published q hq
      simp [unseen] at hw
    · intro r hp hs
      obtain ⟨e', hw, _⟩ := h.ended r hp hs
      simp [unseen] at hw
  | aggregator ready =>
    refine h.rest rfl rfl ⟨.refl _, fun _ _ ht _ => ht⟩ ?_ rfl fun _ _ present _ => present
    intro e ended
    simp [Aggregator.live_of_isReady ready] at ended
  | @supervisor i t found ready =>
    have passes := Supervisor.step_passes (staffed.member i t found).1 m.scene ready
    have live := Supervisor.not_hasEnded_of_isReady ready
    exact h.replace found (ordered.unjoined_of_live found live) passes.joined rfl rfl rfl rfl rfl
  | @run i t station found phase ready =>
    have live := Supervisor.not_hasEnded_of_supervising phase
    refine h.replace found (ordered.unjoined_of_live found live) ?_ rfl rfl rfl rfl rfl
    rw [Supervisor.stepRun_eq phase]
  | join phase found ended unjoined => exact h.join phase found ended unjoined
  | time | cancel | turn =>
    exact h.rest rfl rfl ⟨.refl _, fun _ _ ht _ => ht⟩ (fun _ => id) rfl fun _ _ present _ => present

theorem Started.collected {c : Config} {p : Equipment} {m : Simulation} (h : Started c p m) :
    Collected m := by
  obtain ⟨duration, interrupt, phase⟩ := h.phase
  refine ⟨fun _ => ⟨?_, fun i t ht hj => by simp [h.not_joined ht] at hj⟩, ?_, ?_, ?_, ?_, ?_, ?_⟩
  · rw [h.slots]
    refine .of_eq (List.filterMap_eq_nil_iff.mpr fun t ht => ?_).symm
    obtain ⟨i, hi⟩ := List.getElem?_of_mem ht
    simp [Supervisor.handedIn?, h.not_joined (i := i) (by simpa using hi)]
  · simp [phase, CoordinatorPhase.hasAggregator]
  · simp [h.watched]
  · simp [h.published]
  · simp [phase]
  · simp [phase]
  · simp [phase]

theorem Reachable.collected {c : Config} {p : Equipment} {m : Simulation} (h : Reachable c p m) :
    Collected m :=
  h.invariant (fun started => (start_started started).collected) fun prior turn hm =>
    turn.collected prior.staffed prior.ordered hm

end Simulation
end SensorFleet
