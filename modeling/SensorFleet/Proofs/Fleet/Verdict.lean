import SensorFleet.Proofs.Fleet.Isolation
import SensorFleet.Proofs.Fleet.Launches
import SensorFleet.Proofs.Fleet.LostReader
import SensorFleet.Proofs.Fleet.Reckoning

/-!
When a run fails. It does so exactly when a call of the factory has crashed, and with it the
supervisor that made the call, or the aggregator has; whatever else goes wrong is contained. A run
that fails is taken down as completely as any other.
-/
namespace SensorFleet

theorem Config.lastId_of_validate {c : Config} (h : c.validate = .ok ()) :
    c.lastId = .ok c.producers := by
  unfold validate at h
  cases last : c.lastId with
  | error e => simp [last, bind, Except.bind] at h
  | ok n =>
    unfold lastId at last
    split at last
    · exact last ▸ rfl
    · cases last

namespace Simulation

theorem validate_of_check {c : Config} {hasBroker : Bool} (h : check c hasBroker = .ok ()) :
    c.validate = .ok () := by
  unfold check at h
  split at h
  next => cases h
  next valid => exact valid

/-- The coordinator ends without an error only if no task has crashed. -/
theorem Reachable.failed_of_taskCrashed {c : Config} {p : Equipment} {m : Simulation}
    (h : Reachable c p m) {r : Except SimError SimReport} (phase : m.coordinator.phase = .ended r)
    (crashed : m.TaskCrashed) : ∃ e, r = .error e := by
  cases r with
  | error e => exact ⟨e, rfl⟩
  | ok report =>
    have past : m.coordinator.phase.isPast = true := by rw [phase]; rfl
    obtain ⟨failure, _⟩ := h.collected.reported report phase
    rcases crashed with ⟨i, t, k, found, crashed⟩ | ⟨k, crashed⟩
    · obtain ⟨s, handed, _⟩ := h.handedIn past failure t (Array.mem_of_getElem? found).val
      simp [Supervisor.handedIn?, Supervisor.report?, crashed] at handed
    · have returned := h.collected.aggregated failure (by rw [phase]; rfl)
      simp [crashed] at returned

/-- The broker's connection was released, whatever came of it. -/
def BrokerClosed (m : Simulation) : Prop :=
  ∃ entry ∈ m.scene.journal, ∃ error, entry.what = .brokerClosed error

theorem closeBroker_closed (m : Simulation) : m.closeBroker.BrokerClosed := by
  unfold closeBroker
  dsimp only
  split
  · exact ⟨_, List.mem_cons_of_mem _ List.mem_cons_self, _, rfl⟩
  · exact ⟨_, List.mem_cons_self, _, rfl⟩

theorem conclude_journal (m : Simulation) : m.scene.journal ⊆ m.conclude.scene.journal := by
  have logged (s : Scene) (n : Notice) : s.journal ⊆ (s.log n).journal :=
    List.subset_cons_self _ _
  unfold conclude
  split
  · exact fun _ => id
  · refine List.Subset.trans ?_ (logged _ _)
    split
    · exact List.Subset.trans (logged _ _) (logged _ _)
    · exact logged _ _

theorem joinPublisher_closed (m : Simulation) (e : Ending PublisherReport) :
    (m.joinPublisher e).BrokerClosed := by
  have closed (m₁ : Simulation) : m₁.closeBroker.conclude.BrokerClosed := by
    obtain ⟨entry, noted, what⟩ := closeBroker_closed m₁
    exact ⟨entry, conclude_journal _ noted, what⟩
  cases e with
  | returned q => exact closed _
  | crashed k => exact closed _

/-- At the end of a run nobody is left to go on. -/
theorem Turn.brokerClosed {c : Config} {p : Equipment} {m m' : Simulation} (turn : Turn m m')
    (h : Reachable c p m) {r : Except SimError SimReport} (phase' : m'.coordinator.phase = .ended r)
    (present' : m'.publisher.isSome = true)
    (hm : ∀ r, m.coordinator.phase = .ended r → m.publisher.isSome = true → m.BrokerClosed) :
    m'.BrokerClosed := by
  have quiet {i : Nat} {t : Supervisor} (found : m.supervisors[i]? = some t)
      (live : t.hasEnded = false) (phase : m.coordinator.phase = .ended r) : m'.BrokerClosed := by
    simp [h.ordered.ended (by rw [phase]; rfl) found] at live
  cases turn with
  | shutdown cause phase | closeQueue phase => cases phase'
  | @joinAggregator e phase ended =>
    have takes := joinAggregator_takes m e
    have later := takes.phase
    rw [takes.keeps.publisher] at present'
    simp [present', phase'] at later
  | joinPublisher phase watched => exact joinPublisher_closed m _
  | @publisher q present ready =>
    obtain ⟨e, watched, _⟩ := h.collected.ended r phase' (by simp [present])
    obtain ⟨q', present₁, ended⟩ := h.collected.watched e watched
    rw [present, Option.some.injEq] at present₁
    subst present₁
    simp [Publisher.live_of_isReady ready] at ended
  | @watcher q e unseen present ended =>
    obtain ⟨e', watched, _⟩ := h.collected.ended r phase' present'
    simp [unseen] at watched
  | aggregator ready =>
    obtain ⟨e, ended⟩ := h.aggregator_ended (by rw [show m.coordinator.phase = _ from phase']; rfl)
    simp [Aggregator.live_of_isReady ready] at ended
  | supervisor found ready => exact quiet found (Supervisor.not_hasEnded_of_isReady ready) phase'
  | run found phase ready =>
    exact quiet found (Supervisor.not_hasEnded_of_supervising phase) phase'
  | join phase found ended unjoined =>
    rw [(join_joins phase ended _).phase] at phase'
    cases phase'
  | time | cancel | turn => exact hm r phase' present'

theorem Reachable.brokerClosed {c : Config} {p : Equipment} {m : Simulation} (h : Reachable c p m)
    {r : Except SimError SimReport} (phase : m.coordinator.phase = .ended r)
    (present : m.publisher.isSome = true) : m.BrokerClosed := by
  refine h.invariant (P := fun m => ∀ r, m.coordinator.phase = .ended r →
    m.publisher.isSome = true → m.BrokerClosed) ?_ ?_ r phase present
  · intro m started r phase
    obtain ⟨duration, interrupt, running⟩ := (start_started started).phase
    simp [running] at phase
  · exact fun prior turn hm r phase present => turn.brokerClosed prior phase present hm

structure TornDown (m : Simulation) : Prop where
  queue : m.scene.primary.isClosed = true
  supervisors : ∀ t ∈ m.supervisors, ∃ e, t.phase = .ended e
  aggregator : ∃ e, m.aggregator.ending? = some e
  publisher : ∀ q, m.publisher = some q → (∃ e, q.ending? = some e) ∧ m.BrokerClosed

theorem Reachable.tornDown {c : Config} {p : Equipment} {m : Simulation} (h : Reachable c p m)
    {r : Except SimError SimReport} (phase : m.coordinator.phase = .ended r) : TornDown m where
  queue := by rw [h.ordered.closed, phase]; rfl
  supervisors := by
    intro t ht
    obtain ⟨i, found⟩ := Array.getElem?_of_mem ht
    exact Supervisor.phase_of_hasEnded (h.ordered.ended (by rw [phase]; rfl) found)
  aggregator := h.aggregator_ended (by rw [phase]; rfl)
  publisher := by
    intro q present
    have present' : m.publisher.isSome = true := by rw [present]; rfl
    obtain ⟨e, watched, _⟩ := h.collected.ended r phase present'
    obtain ⟨q', present₁, ended⟩ := h.collected.watched e watched
    rw [present, Option.some.injEq] at present₁
    exact ⟨⟨e, present₁ ▸ ended⟩, h.brokerClosed phase present'⟩

/-- A simulation that was built and whose run has ended: the ids suffice, and the run has failed
exactly if a call of the factory or the aggregator has crashed. Then it blames a crash, and nothing
else. In any case the queue is closed, every task has ended, and if there was a publisher the
broker's connection was released. -/
theorem Reachable.fails_iff {c : Config} {p : Equipment} {m : Simulation}
    (built : check c p.broker.isSome = .ok ()) (h : Reachable c p m)
    {r : Except SimError SimReport} (phase : m.coordinator.phase = .ended r) :
    c.lastId = .ok c.producers ∧
    ((∃ e, r = .error e) ↔
      m.scene.CreationCrashed ∨ ∃ k, m.aggregator.ending? = some (.crashed k)) ∧
    (∀ e, r = .error e → ∃ text, e = .other text) ∧
    m.TornDown := by
  have blames := h.blames
  have crashed : m.TaskCrashed ↔
      m.scene.CreationCrashed ∨ ∃ k, m.aggregator.ending? = some (.crashed k) := by
    rw [TaskCrashed, h.supplied.crashed]
  refine ⟨Config.lastId_of_validate (validate_of_check built), ?_, ?_, h.tornDown phase⟩
  · rw [← crashed]
    refine ⟨?_, h.failed_of_taskCrashed phase⟩
    rintro ⟨e, rfl⟩
    exact h.taskCrashed (blames.result e phase)
  · rintro e rfl
    exact blames.failure e (blames.result e phase)

/-- The first call of the factory crashes, for one of two producers. -/
theorem failed_for_a_creation :
    ∃ (c : Config) (p : Equipment) (m : Simulation) (e : SimError),
      check c p.broker.isSome = .ok () ∧ Reachable c p m ∧ m.coordinator.phase = .ended (.error e) ∧
      m.scene.CreationCrashed ∧ m.TornDown := by
  let c : Config := { producers := 2, capacity := 1, publishes := true }
  let p : Equipment :=
    { clock := .fixed default
      sources := fun id _ _ =>
        if id = 1 then .crash .other else .source fun _ => .value default
      broker := some { kind := .recording } }
  let cues : List Cue := [.event .publisher, .event .aggregator, .event (.supervisor 0),
    .event (.supervisor 1), .event (.run 1), .outside .cancel, .event (.shutdown .cancellation),
    .event (.run 1), .event (.supervisor 1), .event (.join 0), .event (.join 1), .event .coordinator,
    .event .aggregator, .event .aggregator, .event .coordinator, .event .publisher,
    .event .publisher, .event .publisher, .event .watcher, .event .coordinator]
  let hasFailed (m : Simulation) : Bool :=
    (m.result?.any fun r => r.toOption.isNone) &&
      decide (m.aggregator.ending? = some (.returned {}))
  obtain ⟨m, reachable, failed⟩ : ∃ m, Reachable c p m ∧ hasFailed m = true :=
    exists_reachable cues (by decide)
  simp only [hasFailed, Bool.and_eq_true, decide_eq_true_eq] at failed
  obtain ⟨failed, returned⟩ := failed
  obtain ⟨r, result, unreported⟩ := (Option.any_eq_true _ _).mp failed
  cases phase : m.coordinator.phase with
  | ended r' =>
    simp only [result?, phase, Option.some.injEq] at result
    subst result
    cases r' with
    | ok report => cases unreported
    | error e =>
      have built : check c p.broker.isSome = .ok () := rfl
      obtain ⟨_, iff, _, tornDown⟩ := reachable.fails_iff built phase
      refine ⟨c, p, m, e, built, reachable, phase, ?_, tornDown⟩
      exact (iff.mp ⟨e, rfl⟩).resolve_right (by simp [returned])
  | _ => simp [result?, phase] at result

end Simulation
end SensorFleet
