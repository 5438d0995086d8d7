import SensorFleet.Proofs.Fleet.Metering
import SensorFleet.Proofs.Fleet.Verdict

/-!
The metrics of a run agree with it. Where observations are counted, each figure of the metrics is
the sum of the figures of the slots and of the aggregator in every reachable state; when the run
ends the gauge of active runs is down to zero, and a report shows the figures of the metrics.
-/
namespace SensorFleet

section Sums
variable {α κ : Type} [DecidableEq κ]

/-- Where only one place has the key, only that place adds to the sum. -/
theorem sum_of_distinct {key : α → κ} {weight : α → Nat} {l : List α} (distinct : (l.map key).Nodup)
    {a : α} (ha : a ∈ l) : (l.map fun b => if key b = key a then weight b else 0).sum = weight a := by
  induction l with
  | nil => cases ha
  | cons b l ih =>
    rw [List.map_cons, List.nodup_cons] at distinct
    rw [List.map_cons, List.sum_cons]
    rcases List.mem_cons.mp ha with rfl | ha
    · have rest : (l.map fun b => if key b = key a then weight b else 0).sum = 0 :=
        List.sum_eq_zero_iff_forall_eq_nat.mpr fun n hn => by
          obtain ⟨b, hb, rfl⟩ := List.mem_map.mp hn
          exact if_neg fun he : key b = key a => distinct.1 (he ▸ List.mem_map_of_mem hb)
      rw [if_pos rfl, rest, Nat.add_zero]
    · have other : key b ≠ key a := fun he => distinct.1 (he ▸ List.mem_map_of_mem ha)
      rw [if_neg other, Nat.zero_add, ih distinct.2 ha]

theorem sum_of_none {key : α → κ} {weight : α → Nat} {l : List α} {k : κ} (none : ∀ b ∈ l, key b ≠ k) :
    (l.map fun b => if key b = k then weight b else 0).sum = 0 :=
  List.sum_eq_zero_iff_forall_eq_nat.mpr fun n hn => by
    obtain ⟨b, hb, rfl⟩ := List.mem_map.mp hn
    exact if_neg (none b hb)

theorem sum_toNat (f : α → Bool) (l : List α) : (l.map fun a => (f a).toNat).sum = l.countP f := by
  induction l with
  | nil => rfl
  | cons a l ih => cases ha : f a <;> simp [ha, ih, Nat.add_comm]

end Sums

namespace Scene

/-- What a task adds, the whole of which it is a part adds as well. -/
theorem Meters.within {s s' : Scene} {own own' all all' : Figure → Nat} (h : s.Meters own s' own')
    (whole : ∀ k, all' k + own k = all k + own' k) : s.Meters all s' all' := by
  refine ⟨h.counts, fun on k => ?_⟩
  have figures := h.figures on k
  have parts := whole k
  omega

end Scene

namespace Simulation

def figure (m : Simulation) (k : Figure) : Nat :=
  (m.supervisors.toList.map fun t => t.figure k).sum + m.aggregator.figure k

theorem figure_congr {m m' : Simulation} (supervisors : m'.supervisors = m.supervisors)
    (aggregator : m'.aggregator = m.aggregator) : m'.figure = m.figure := by
  funext k
  rw [figure, supervisors, aggregator, figure]

theorem figure_set {m m' : Simulation} {i : Nat} {t t' : Supervisor}
    (found : m.supervisors[i]? = some t)
    (supervisors : m'.supervisors = m.supervisors.setIfInBounds i t')
    (aggregator : m'.aggregator = m.aggregator) (k : Figure) :
    m'.figure k + t.figure k = m.figure k + t'.figure k := by
  have hl : m.supervisors.toList[i]? = some t := by simpa using found
  have hs := sum_map_set (fun t => t.figure k) hl t'
  rw [figure, figure, supervisors, aggregator, Array.toList_setIfInBounds]
  omega

theorem conclude_sameFigures (m : Simulation) : m.scene.SameFigures m.conclude.scene := by
  have looked := (Scene.SameFigures.refl m.scene).readClock
  unfold conclude
  split
  · exact .refl _
  · refine Scene.SameFigures.log ?_ _
    split
    · exact (looked.log _).log _
    · exact looked.log _

theorem joinAggregator_sameFigures (m : Simulation) (e : Ending AggregatorReport) :
    m.scene.SameFigures (m.joinAggregator e).scene := by
  have handed (m₁ : Simulation) (h : m.scene.SameFigures m₁.scene) :
      m.scene.SameFigures (if m₁.publisher.isSome then
        ({ m₁ with scene := (m₁.scene.close .fanout).2 } : Simulation).enter .awaitingPublisher
        else m₁.conclude).scene := by
    split
    · exact h.close .fanout
    · exact h.trans (conclude_sameFigures m₁)
  cases e with
  | returned r => exact handed { m with coordinator := _ } (.refl _)
  | crashed c =>
    exact handed ((m.log (.aggregatorTaskFailed c)).failTask c)
      ((Scene.SameFigures.refl _).log _)

theorem joinPublisher_sameFigures (m : Simulation) (e : Ending PublisherReport) :
    m.scene.SameFigures (m.joinPublisher e).scene := by
  have closed (m : Simulation) : m.scene.SameFigures m.closeBroker.scene := by
    unfold closeBroker
    dsimp only
    split
    · split <;> exact .of_metrics rfl rfl
    · split <;> exact .of_metrics rfl rfl
  have concluded (m₁ : Simulation) (h : m.scene.SameFigures m₁.scene) :
      m.scene.SameFigures m₁.closeBroker.conclude.scene :=
    (h.trans (closed m₁)).trans (conclude_sameFigures _)
  cases e with
  | returned r => exact concluded { m with coordinator := _ } (.refl _)
  | crashed c =>
    exact concluded (m.log (.publisherTaskFailed c)) ((Scene.SameFigures.refl _).log _)

theorem closeQueue_sameFigures (m : Simulation) : m.scene.SameFigures m.closeQueue.scene := by
  have closed := (Scene.SameFigures.refl m.scene).close .primary
  unfold closeQueue
  dsimp only [enter]
  split
  · exact closed.log _
  · exact closed

theorem stepWatcher_sameFigures (m : Simulation) (e : Ending PublisherReport) :
    m.scene.SameFigures (m.stepWatcher e).scene := by
  have closed := (Scene.SameFigures.refl m.scene).close .fanout
  unfold stepWatcher
  dsimp only
  split
  · exact closed.log _
  · exact closed

theorem join_sameFigures (m : Simulation) (i : Nat) (t : Supervisor) :
    m.scene.SameFigures (m.join i t).scene := by
  have hs := Scene.SameFigures.refl m.scene
  unfold join
  cases t.ending? with
  | none =>
    dsimp only
    split <;> exact hs
  | some e =>
    cases e with
    | crashed c =>
      dsimp only
      split <;> exact hs.log _
    | returned r =>
      cases r with
      | ok report =>
        dsimp only
        split <;> exact hs
      | error e =>
        dsimp only
        split <;> exact hs.log _

/-- A turn adds to the metrics what it adds to the figures of the tasks. -/
theorem Turn.meters {c : Config} {m m' : Simulation} (turn : Turn m m') (staffed : Staffed c m) :
    m.scene.Meters m.figure m'.scene m'.figure := by
  cases turn with
  | shutdown cause phase => exact ⟨rfl, fun _ _ => rfl⟩
  | closeQueue phase => exact (closeQueue_sameFigures m).meters m.figure
  | @joinAggregator e phase ended =>
    have keeps := (joinAggregator_takes m e).keeps
    rw [figure_congr keeps.supervisors keeps.aggregator]
    exact (joinAggregator_sameFigures m e).meters m.figure
  | @joinPublisher e phase watched =>
    have keeps := (joinPublisher_takes m e).keeps
    rw [figure_congr keeps.supervisors keeps.aggregator]
    exact (joinPublisher_sameFigures m e).meters m.figure
  | @publisher p present ready => exact (p.step_sameFigures m.scene).meters m.figure
  | @watcher p e unseen present ended => exact (stepWatcher_sameFigures m e).meters m.figure
  | aggregator ready =>
    refine (m.aggregator.step_meters m.scene).within fun k => ?_
    simp only [figure]
    omega
  | @supervisor i t found ready =>
    have meters := Supervisor.step_meters (staffed.member i t found).1 m.scene ready
    exact meters.within (figure_set found rfl rfl)
  | @run i t station found phase ready =>
    have meters := Supervisor.stepRun_meters (staffed.member i t found).1 phase (.slot i) m.scene
    exact meters.within (figure_set found rfl rfl)
  | @join i left t phase found ended unjoined =>
    have joins := join_joins phase ended i
    have set := figure_set found joins.supervisors joins.aggregator
    exact ((join_sameFigures m i t).meters t.figure).within set
  | time | cancel | turn => exact ⟨rfl, fun _ _ => rfl⟩

/-- The metrics show the sums of the figures of the tasks. -/
theorem Reachable.figures {c : Config} {p : Equipment} {m : Simulation} (on : p.counts = true)
    (h : Reachable c p m) :
    m.scene.counts = true ∧ ∀ k, m.scene.metrics.figure k = m.figure k := by
  refine h.invariant (P := fun m => m.scene.counts = true ∧
    ∀ k, m.scene.metrics.figure k = m.figure k) (fun {m} started => ?_) ?_
  · have fresh := start_started started
    refine ⟨fresh.counts.trans on, fun k => ?_⟩
    have idle : ∀ t ∈ m.supervisors.toList, t.figure k = 0 := by
      intro t ht
      obtain ⟨i, hi⟩ := List.getElem?_of_mem ht
      have found : m.supervisors[i]? = some t := by simpa using hi
      rw [fresh.found found]
      cases k <;> simp [Supervisor.figure, Supervisor.ledger, Supervisor.isSupervising,
        Supervisor.new]
    have slots : (m.supervisors.toList.map fun t => t.figure k).sum = 0 :=
      List.sum_eq_zero_iff_forall_eq_nat.mpr fun n hn => by
        obtain ⟨t, ht, rfl⟩ := List.mem_map.mp hn
        exact idle t ht
    have aggregator : m.aggregator.figure k = 0 := by
      rw [fresh.aggregator]
      cases k <;> rfl
    have metrics : m.scene.metrics = {} := by
      rw [start_scene started]
      rfl
    rw [figure, slots, aggregator, metrics]
    cases k <;> rfl
  · rintro m m' prior turn ⟨counts, hm⟩
    have meters := turn.meters prior.staffed
    refine ⟨meters.counts.trans counts, fun k => ?_⟩
    have grown := meters.figures counts k
    have agreed := hm k
    omega

/-- The readings of a producer that entered the queue are those that its slots have sent. -/
theorem Reachable.sent_by {c : Config} {p : Equipment} {m : Simulation} (h : Reachable c p m)
    (id : ProducerId) :
    (m.tallies.map fun e => if e.1 = id then e.2 else 0).sum = countOf id (m.scene.entered .primary) := by
  refine h.invariant (P := fun m => (m.tallies.map fun e => if e.1 = id then e.2 else 0).sum =
    countOf id (m.scene.entered .primary)) (fun {m} started => ?_) ?_
  · have fresh := start_started started
    rw [fresh.entered, countOf_nil]
    refine List.sum_eq_zero_iff_forall_eq_nat.mpr fun n hn => ?_
    obtain ⟨e, he, rfl⟩ := List.mem_map.mp hn
    obtain ⟨t, ht, rfl⟩ := List.mem_map.mp he
    obtain ⟨i, hi⟩ := List.getElem?_of_mem ht
    have found : m.supervisors[i]? = some t := by simpa using hi
    rw [fresh.found found]
    exact ite_self 0
  · intro m m' prior turn hm
    cases prior.entry turn with
    | quiet tallies aggregator publisher posts =>
      rw [tallies, posts.sent, List.append_nil, hm]
    | @sends i id' n rs found own tallies aggregator publisher posts =>
      have set := sum_map_set (fun e : ProducerId × Nat => if e.1 = id then e.2 else 0) found
        (id', n + rs.length)
      rw [tallies, posts.sent, countOf_append, ← hm]
      dsimp only at set ⊢
      by_cases he : id' = id
      · subst he
        rw [countOf_own own]
        simp only [if_true] at set
        omega
      · rw [countOf_foreign own (Ne.symm he)]
        simp only [if_neg he] at set
        omega
    | receives taken entered lost tallies forwards deals publisher posts =>
      rw [tallies, posts.sent, List.append_nil, hm]
    | fetches p p' fetched settled tallies aggregator present live present' deals posts =>
      rw [tallies, posts.sent, List.append_nil, hm]

theorem Reachable.restarts_reported {c : Config} {p : Equipment} {m : Simulation}
    (h : Reachable c p m) : ∀ (i : Nat) t, m.supervisors[i]? = some t →
      ∀ report, t.report? = some report → report.restarts = t.slot.faults.length := by
  refine h.invariant (P := fun m => ∀ (i : Nat) t, m.supervisors[i]? = some t →
    ∀ report, t.report? = some report → report.restarts = t.slot.faults.length) ?_ ?_
  · intro m started i t found report reported
    rw [(start_started started).found found] at reported
    cases reported
  · intro m m' prior turn hm
    refine turn.each hm fun {i t t'} found turns => ?_
    intro report reported
    cases turns with
    | steps ready =>
      have proceeds := Supervisor.step_proceeds (prior.staffed.member i t found).1
        (prior.lawful i t found) ready (s := m.scene)
      have ended := Supervisor.phase_of_report? reported
      cases proceeds.goes with
      | finishes isOver same phase attempts =>
        rw [phase] at ended
        injection ended with ended
        injection ended with ended
        injection ended with ended
        rw [← ended, proceeds.faults]
      | launches source going given makes phase attempts =>
        rw [phase] at ended
        cases ended
      | dies c going given makes phase attempts =>
        rw [phase] at ended
        cases ended
    | runs phase ready =>
      rw [Supervisor.stepRun_eq phase] at reported
      cases reported
    | joins ended unjoined => exact hm i t found report reported

structure Agrees (c : Config) (m : Simulation) : Prop where
  active : m.scene.metrics.active = m.supervisors.toList.countP Supervisor.isSupervising
  most : m.supervisors.toList.countP Supervisor.isSupervising ≤ c.producers
  sent : ∀ id, (m.scene.metrics.producer id).sent = countOf id (m.scene.entered .primary)
  restarts : ∀ t ∈ m.supervisors.toList,
    (m.scene.metrics.producer t.slot.id).restarts = t.slot.faults.length
  noRestarts : ∀ id, (∀ t ∈ m.supervisors.toList, t.slot.id ≠ id) →
    (m.scene.metrics.producer id).restarts = 0
  received : m.scene.metrics.received = m.aggregator.report.received

theorem Reachable.agrees {c : Config} {p : Equipment} {m : Simulation} (h : Reachable c p m)
    (few : c.producers < UInt32.size) (on : p.counts = true) : Agrees c m := by
  have figures := (h.figures on).2
  have restarts (id : ProducerId) : (m.scene.metrics.producer id).restarts =
      (m.supervisors.toList.map fun t => if t.slot.id = id then t.slot.faults.length else 0).sum := by
    exact Int.ofNat.inj (figures (.restarts id))
  have distinct : (m.supervisors.toList.map fun t => t.slot.id).Nodup := by
    have ids := h.booked.ids
    rw [tallies, List.map_map] at ids
    refine ids ▸ List.nodup_range.map_on fun i hi j hj he => ?_
    have he := congrArg UInt32.toNat he
    rw [toNat_idAt few (List.mem_range.mp hi), toNat_idAt few (List.mem_range.mp hj)] at he
    exact Nat.succ.inj he
  refine ⟨?_, ?_, fun id => ?_, fun t ht => ?_, fun id none => ?_, ?_⟩
  · refine (figures .active).trans (congrArg Int.ofNat ?_)
    exact sum_toNat Supervisor.isSupervising m.supervisors.toList
  · rw [← h.staffed.size, ← Array.length_toList]
    exact List.countP_le_length
  · have sent := figures (.sent id)
    rw [← h.sent_by id, tallies, List.map_map]
    exact Int.ofNat.inj sent
  · rw [restarts]
    exact sum_of_distinct distinct ht
  · rw [restarts]
    exact sum_of_none none
  · have received := figures .received
    have none : (m.supervisors.toList.map fun t => t.figure .received).sum = 0 :=
      List.sum_eq_zero_iff_forall_eq_nat.mpr fun n hn => by
        obtain ⟨t, _, rfl⟩ := List.mem_map.mp hn
        rfl
    rw [figure, none, Nat.zero_add] at received
    exact Int.ofNat.inj received

end Simulation

structure Metrics.Shows (m : Metrics) (report : SimReport) : Prop where
  sent : m.snapshot.sent = report.sent
  received : m.snapshot.received = report.received
  restarts : m.snapshot.restarts = report.restarts
  slots : ∀ s ∈ report.producers.toList,
    (m.producer s.producer).sent = s.sent ∧ (m.producer s.producer).restarts = s.restarts
  others : ∀ id, (∀ s ∈ report.producers.toList, s.producer ≠ id) →
    (m.producer id).sent = 0 ∧ (m.producer id).restarts = 0

namespace Simulation

theorem Reachable.shows {c : Config} {p : Equipment} {m : Simulation} (h : Reachable c p m)
    (few : c.producers < UInt32.size) (on : p.counts = true) {report : SimReport}
    (phase : m.coordinator.phase = .ended (.ok report)) : m.scene.metrics.Shows report := by
  have figures := (h.figures on).2
  have agrees := h.agrees few on
  have reckoned := h.reckoned phase
  have sorted := h.reported_perm phase
  have past : m.coordinator.phase.isPast = true := by rw [phase]; rfl
  obtain ⟨failure, finishedAt, queue, _, rfl⟩ := h.collected.reported report phase
  have handed : ∀ t ∈ m.supervisors.toList, ∃ s, t.handedIn? = some s ∧ s.producer = t.slot.id ∧
      s.restarts = t.slot.faults.length := by
    intro t ht
    obtain ⟨i, hi⟩ := List.getElem?_of_mem ht
    obtain ⟨s, hs, _, tally⟩ := h.handedIn past failure t ht
    refine ⟨s, hs, congrArg Prod.fst tally, h.restarts_reported i t (by simpa using hi) s ?_⟩
    unfold Supervisor.handedIn? at hs
    split at hs
    · exact hs
    · cases hs
  have totals : (m.supervisors.toList.map fun t => t.slot.faults.length).sum =
      SimReport.total SlotReport.restarts m.coordinator.slots.reverse := by
    obtain ⟨perm, _⟩ := h.collected.slots failure
    rw [SimReport.total_eq_sum,
      ((m.coordinator.slots.reverse_perm.trans perm).map SlotReport.restarts).sum_eq]
    refine congrArg List.sum (map_filterMap_of_some fun t ht => ?_).symm
    obtain ⟨s, hs, _, restarts⟩ := handed t ht
    exact ⟨s, hs, restarts⟩
  refine ⟨?_, agrees.received.trans reckoned.received.symm, ?_, fun s hs => ⟨?_, ?_⟩,
    fun id none => ⟨?_, ?_⟩⟩
  · have sent : m.scene.metrics.sumOf Counters.sent = (m.tallies.map Prod.snd).sum := by
      rw [tallies, List.map_map]
      exact Int.ofNat.inj (figures .sentInAll)
    exact sent.trans reckoned.sent.symm
  · exact (Int.ofNat.inj (figures .restartsInAll)).trans totals
  · obtain ⟨i, hi⟩ := List.getElem?_of_mem (reckoned.slots.mem_iff.mp (List.mem_map_of_mem hs))
    rw [agrees.sent]
    exact (h.booked.slots few i s.producer s.sent hi).symm
  · obtain ⟨t, ht, he⟩ := List.mem_filterMap.mp (sorted.mem_iff.mp hs)
    obtain ⟨s', hs', id, restarts⟩ := handed t ht
    rw [he, Option.some.injEq] at hs'
    rw [hs', id, restarts]
    exact agrees.restarts t ht
  · rw [agrees.sent, ← h.sent_by]
    refine sum_of_none fun e he => ?_
    obtain ⟨s, hs, rfl⟩ := List.mem_map.mp (reckoned.slots.mem_iff.mpr he)
    exact none s hs
  · refine agrees.noRestarts id fun t ht => ?_
    obtain ⟨s, hs, same, _⟩ := handed t ht
    exact same ▸ none s (sorted.mem_iff.mpr (List.mem_filterMap.mpr ⟨t, ht, hs⟩))

/-- A simulation that was built, with its observations counted: in every state the metrics show what
the tasks have done, a run that has ended has left no active producer in them, and a report shows
their counts. -/
theorem Reachable.metrics_agree {c : Config} {p : Equipment} {m : Simulation}
    (built : check c p.broker.isSome = .ok ()) (on : p.counts = true) (h : Reachable c p m) :
    Agrees c m ∧ (∀ r, m.coordinator.phase = .ended r → m.scene.metrics.active = 0) ∧
    ∀ report, m.coordinator.phase = .ended (.ok report) → m.scene.metrics.Shows report := by
  have few := few_of_lastId (Config.lastId_of_validate (validate_of_check built))
  have agrees := h.agrees few on
  refine ⟨agrees, fun r phase => ?_, fun report phase => h.shows few on phase⟩
  have none : m.supervisors.toList.countP Supervisor.isSupervising = 0 := by
    refine List.countP_eq_zero.mpr fun t ht => ?_
    obtain ⟨e, ended⟩ := (h.tornDown phase).supervisors t (Array.mem_toList_iff.mp ht)
    simp [Supervisor.isSupervising, ended]
  rw [agrees.active, none]
  rfl

/-- One producer faults once and is started again, and then the run ends. -/
theorem metrics_agree_past_a_fault :
    ∃ (c : Config) (p : Equipment) (m : Simulation) (report : SimReport),
      check c p.broker.isSome = .ok () ∧ p.counts = true ∧ Reachable c p m ∧
      m.coordinator.phase = .ended (.ok report) ∧ report.sent = 2 ∧ report.restarts = 1 ∧
      m.scene.metrics.active = 0 ∧ m.scene.metrics.Shows report := by
  let c : Config := { producers := 1, capacity := 2 }
  let p : Equipment :=
    { clock := .fixed default
      sources := fun _ nth _ => .source fun drawn =>
        if nth = 0 ∧ drawn = 1 then .crash .other else .value default }
  let cues : List Cue := [.event (.supervisor 0), .event (.run 0), .time 100000000,
    .event (.run 0), .time 200000000, .event (.run 0), .event (.supervisor 0), .event (.run 0),
    .time 300000000, .event (.run 0), .outside .cancel, .event (.shutdown .cancellation),
    .event (.run 0), .event (.supervisor 0), .event (.join 0), .event .coordinator,
    .event .aggregator, .event .aggregator, .event .aggregator, .event .aggregator,
    .event .aggregator, .event .coordinator]
  let hasReported (m : Simulation) : Bool :=
    m.report?.any fun report => decide (report.sent = 2 ∧ report.restarts = 1)
  obtain ⟨m, reachable, reported⟩ : ∃ m, Reachable c p m ∧ hasReported m = true :=
    exists_reachable cues (by decide)
  obtain ⟨report, found, counts⟩ := (Option.any_eq_true _ _).mp reported
  have phase := phase_of_report? found
  obtain ⟨sent, restarts⟩ := of_decide_eq_true counts
  have built : check c p.broker.isSome = .ok () := rfl
  obtain ⟨_, idle, shows⟩ := reachable.metrics_agree built rfl
  exact ⟨c, p, m, report, built, rfl, reachable, phase, sent, restarts, idle _ phase,
    shows report phase⟩

end Simulation
end SensorFleet
