import SensorFleet.Proofs.Fleet.Reckoning

/-!
Accounts of the publish path. A reading that was received has entered the fan-out or was dropped,
and one that entered the fan-out is inside, in flight or settled; the counters of its producer tell
of it exactly when it was dropped or settled. So at the end of a run every reading is accounted for
by one outcome, unless the publisher was lost, whose counts are then missing from the report.
-/
namespace SensorFleet

def Publisher.Intact (q : Publisher) : Prop := ∀ e, q.ending? ≠ some (.crashed e)

theorem Publisher.intact_of_live {q : Publisher} (h : q.ending? = none) : q.Intact := by
  simp [Intact, h]

namespace Simulation

/-- Each reading received is dropped or forwarded, and then inside, at hand or settled, on the
counts of the consumers and on those of the producer. -/
structure Accounted (c : Config) (p : Equipment) (m : Simulation) : Prop where
  counts : m.scene.counts = p.counts
  present : m.publisher.isSome = c.publishes
  passed : c.publishes = true →
    m.aggregator.report.received = m.aggregator.report.forwarded + m.aggregator.report.dropped ∧
      m.aggregator.report.forwarded = (m.scene.entered .fanout).length
  settled : ∀ q, m.publisher = some q → q.Intact →
    q.report.total + q.atHand?.toList.length = (m.scene.taken .fanout).length
  outcomes : p.counts = true → ∀ q, m.publisher = some q → q.Intact → ∀ id,
    countOf id (m.scene.taken .primary) + countOf id (m.scene.taken .fanout) =
      m.scene.metrics.outcomes id + countOf id q.atHand?.toList +
        countOf id (m.scene.entered .fanout)

namespace Accounted
variable {c : Config} {p : Equipment} {m m' : Simulation}

theorem rest (h : Accounted c p m) {rs : List Reading}
    (posts : m.scene.Posts { sent := rs } m'.scene) (aggregator : m'.aggregator = m.aggregator)
    (publisher : m'.publisher = m.publisher) :
    Accounted c p m' := by
  have taken (stage : Stage) : m'.scene.taken stage = m.scene.taken stage := by
    cases stage
    · simpa using posts.received
    · simpa using posts.fetched
  have entered : m'.scene.entered .fanout = m.scene.entered .fanout := by
    simpa using posts.forwarded
  have outcomes (id : ProducerId) : m'.scene.metrics.outcomes id = m.scene.metrics.outcomes id := by
    simpa using posts.settled id
  refine ⟨posts.counts.trans h.counts, publisher ▸ h.present, ?_, ?_, ?_⟩
  · rw [aggregator, entered]
    exact h.passed
  · rw [publisher, taken]
    exact h.settled
  · intro on q hq intact id
    rw [publisher] at hq
    rw [taken, taken, entered, outcomes]
    exact h.outcomes on q hq intact id

theorem receives (h : Accounted c p m) (booked : Booked c m) {taken entered lost : List Reading}
    (deals : Aggregator.Deals m.aggregator.forwards m.aggregator.report m'.aggregator.report taken
      entered lost) (publisher : m'.publisher = m.publisher)
    (posts : m.scene.Posts { received := taken, forwarded := entered, settled := lost } m'.scene) :
    Accounted c p m' := by
  have all := deals.all
  rw [booked.forwards] at all
  have fetched : m'.scene.taken .fanout = m.scene.taken .fanout := by simpa using posts.fetched
  refine ⟨posts.counts.trans h.counts, publisher ▸ h.present, ?_, ?_, ?_⟩
  · intro publishes
    obtain ⟨passed, forwarded⟩ := h.passed publishes
    have hlen := congrArg List.length (all publishes)
    rw [List.length_append] at hlen
    rw [posts.forwarded, List.length_append, deals.received, deals.forwarded, deals.dropped]
    simp only
    omega
  · rw [publisher, fetched]
    exact h.settled
  · intro on q hq intact id
    rw [publisher] at hq
    have publishes : c.publishes = true := by rw [← h.present, hq]; rfl
    have before := h.outcomes on q hq intact id
    have hcount := congrArg (countOf id) (all publishes)
    rw [countOf_append] at hcount
    rw [posts.received, fetched, posts.forwarded, posts.settled, h.counts, if_pos on, countOf_append,
      countOf_append]
    simp only
    omega

theorem fetches (h : Accounted c p m) {q q' : Publisher} {fetched settled : List Reading}
    (aggregator : m'.aggregator = m.aggregator) (before : m.publisher = some q)
    (live : q.ending? = none) (after : m'.publisher = some q')
    (deals : (∃ e, q'.ending? = some (.crashed e)) ∨ q.Deals q' fetched settled)
    (posts : m.scene.Posts { fetched := fetched, settled := settled } m'.scene) :
    Accounted c p m' := by
  have received : m'.scene.taken .primary = m.scene.taken .primary := by
    simpa using posts.received
  have entered : m'.scene.entered .fanout = m.scene.entered .fanout := by
    simpa using posts.forwarded
  have intact := Publisher.intact_of_live live
  have dealt {q₁ : Publisher} (hq : m'.publisher = some q₁) (intact' : q₁.Intact) :
      q.Deals q₁ fetched settled := by
    rw [after, Option.some.injEq] at hq
    subst hq
    exact deals.resolve_left fun ⟨e, he⟩ => intact' e he
  refine ⟨posts.counts.trans h.counts, ?_, ?_, ?_, ?_⟩
  · rw [after, ← h.present, before]
    rfl
  · rw [aggregator, entered]
    exact h.passed
  · intro q₁ hq intact'
    obtain ⟨hands, total⟩ := dealt hq intact'
    have hs := h.settled q before intact
    have hlen := congrArg List.length hands
    rw [List.length_append, List.length_append] at hlen
    rw [posts.fetched, List.length_append, total]
    simp only
    omega
  · intro on q₁ hq intact' id
    obtain ⟨hands, _⟩ := dealt hq intact'
    have ho := h.outcomes on q before intact id
    have hcount := congrArg (countOf id) hands
    rw [countOf_append, countOf_append] at hcount
    rw [received, posts.fetched, entered, posts.settled, h.counts, if_pos on, countOf_append]
    simp only
    omega

end Accounted

theorem Entry.accounted {c : Config} {p : Equipment} {m m' : Simulation} (entry : Entry m m')
    (booked : Booked c m) (h : Accounted c p m) : Accounted c p m' := by
  cases entry with
  | quiet tallies aggregator publisher posts => exact h.rest posts aggregator publisher
  | sends i id n rs found own tallies aggregator publisher posts =>
    exact h.rest posts aggregator publisher
  | receives taken entered lost tallies forwards deals publisher posts =>
    exact h.receives booked deals publisher posts
  | fetches q q' fetched settled tallies aggregator before live after deals posts =>
    exact h.fetches aggregator before live after deals posts

theorem Started.accounted {c : Config} {p : Equipment} {m : Simulation} (h : Started c p m) :
    Accounted c p m := by
  have entered : m.scene.entered .fanout = [] := h.entered .fanout
  have taken (stage : Stage) : m.scene.taken stage = [] := h.taken stage
  have fresh {q : Publisher} (hq : m.publisher = some q) : q.report = {} ∧ q.atHand? = none := by
    obtain ⟨_, created, report⟩ := h.publisher_created hq
    exact ⟨report, by simp [Publisher.atHand?, created]⟩
  refine ⟨h.counts, ?_, ?_, ?_, ?_⟩
  · rw [h.publisher, publisherOf]
    cases c.publishes <;> rfl
  · rw [h.aggregator, entered]
    exact fun _ => ⟨rfl, rfl⟩
  · intro q hq _
    obtain ⟨hr, hh⟩ := fresh hq
    rw [hr, hh, taken]
    rfl
  · intro _ q hq _ id
    rw [(fresh hq).2, taken, taken, entered, h.outcomes]
    rfl

theorem Reachable.accounted {c : Config} {p : Equipment} {m : Simulation} (h : Reachable c p m) :
    Accounted c p m :=
  h.invariant (fun started => (start_started started).accounted) fun prior turn hm =>
    (prior.entry turn).accounted prior.booked hm

/-- What was lost or is still on its way is not in the table of the producer yet. -/
theorem Accounted.inside {c : Config} {p : Equipment} {m : Simulation} (h : Accounted c p m)
    (flows : m.scene.Flows) {q : Publisher} (present : m.publisher = some q) (intact : q.Intact) :
    (m.scene.entered .fanout).length =
        q.report.total + q.atHand?.toList.length + m.scene.fanout.length ∧
      (p.counts = true → ∀ id, countOf id (m.scene.taken .primary) =
        m.scene.metrics.outcomes id + countOf id q.atHand?.toList +
          countOf id m.scene.fanout.buffer) := by
  have hf : m.scene.taken .fanout ++ m.scene.fanout.buffer = m.scene.entered .fanout :=
    flows .fanout
  constructor
  · rw [h.settled q present intact, ← hf, List.length_append]
    rfl
  · intro on id
    have ho := h.outcomes on q present intact id
    rw [← hf, countOf_append] at ho
    omega

/-- In a run that ends well, a publisher that was not lost has returned what is in the report. -/
theorem Reachable.published {c : Config} {p : Equipment} {m : Simulation} (h : Reachable c p m)
    {report : SimReport} (phase : m.coordinator.phase = .ended (.ok report)) {n : PublisherReport}
    (hn : report.publisher = some n) :
    ∃ q, m.publisher = some q ∧ q.ending? = some (.returned n) ∧ n = q.report ∧
      m.scene.fanout.Sealed := by
  rw [(h.reckoned phase).publisher] at hn
  obtain ⟨q, present, returned⟩ := h.collected.watched _ (h.collected.published n hn)
  obtain ⟨hr, sealed⟩ := h.drained.publisher q n present returned
  exact ⟨q, present, returned, hr, sealed⟩

/-- What such a publisher leaves is settled: nothing is in flight or in the fan-out. -/
theorem Reachable.settled {c : Config} {p : Equipment} {m : Simulation} (h : Reachable c p m)
    {report : SimReport} (phase : m.coordinator.phase = .ended (.ok report)) {n : PublisherReport}
    (hn : report.publisher = some n) :
    (m.scene.entered .fanout).length = n.total ∧
      (p.counts = true → ∀ id, countOf id (m.scene.taken .primary) =
        m.scene.metrics.outcomes id) := by
  obtain ⟨q, present, returned, rfl, sealed⟩ := h.published phase hn
  have intact : q.Intact := by simp [Publisher.Intact, returned]
  obtain ⟨total, outcomes⟩ := h.accounted.inside h.booked.flows present intact
  have awake := Publisher.atHand?_of_ending returned
  rw [awake, Channel.length, sealed.2] at total
  rw [awake, sealed.2] at outcomes
  exact ⟨total, outcomes⟩

/-- In every reachable state of a run that publishes, unless the publisher crashed: each reading
received was forwarded or dropped by the aggregator; each one forwarded met an outcome, is in flight
or is in the fan-out; and of each producer as many were received as its published and failed ones,
over all reasons, and those in flight or in the fan-out. A report of a run that ends well accounts
for all readings received, and each slot in it for all that it sent; if the publisher was lost, the
report has no counts of it and accounts for the readings forwarded instead. -/
theorem Reachable.publish_accounts {c : Config} {p : Equipment} {m : Simulation}
    (h : Reachable c p m) (publishes : c.publishes = true) :
    (∃ q, m.publisher = some q ∧ ((∀ e, q.ending? ≠ some (.crashed e)) →
      m.aggregator.report.received =
          m.aggregator.report.forwarded + m.aggregator.report.dropped ∧
        m.aggregator.report.forwarded = q.report.success + q.report.failures + q.report.dropped +
          q.atHand?.toList.length + m.scene.fanout.length ∧
        (p.counts = true → ∀ id, countOf id (m.scene.taken .primary) =
          (m.scene.metrics.producer id).published + (m.scene.metrics.producer id).failureCount +
            countOf id q.atHand?.toList + countOf id m.scene.fanout.buffer))) ∧
    ∀ report, m.coordinator.phase = .ended (.ok report) →
      (∀ n, report.publisher = some n →
        report.received = n.attempted + report.dropped ∧
        (p.counts = true → c.lastId = .ok c.producers → ∀ s ∈ report.producers.toList,
          s.sent = (m.scene.metrics.producer s.producer).published +
            (m.scene.metrics.producer s.producer).failureCount)) ∧
      ((∃ q e, m.publisher = some q ∧ q.ending? = some (.crashed e)) →
        report.publisher = none ∧ report.forwarded + report.dropped = report.received) := by
  have accounted := h.accounted
  have booked := h.booked
  obtain ⟨passed, forwarded⟩ := accounted.passed publishes
  refine ⟨?_, fun report phase => ?_⟩
  · obtain ⟨q, present⟩ := Option.isSome_iff_exists.mp (accounted.present.trans publishes)
    refine ⟨q, present, fun intact => ?_⟩
    obtain ⟨total, outcomes⟩ := accounted.inside booked.flows present intact
    exact ⟨passed, forwarded.trans total, outcomes⟩
  have reckoned := h.reckoned phase
  refine ⟨fun n hn => ?_, ?_⟩
  · obtain ⟨total, outcomes⟩ := h.settled phase hn
    refine ⟨?_, fun on checked s hs => ?_⟩
    · rw [reckoned.received, reckoned.dropped, hn, passed, forwarded, total]
      simp only [Option.elim_some, PublisherReport.total, PublisherReport.attempted]
      omega
    · rw [reckoned.slot_received booked (few_of_lastId checked) hs]
      exact outcomes on s.producer
  · rintro ⟨q, e, present, crashed⟩
    have lost : report.publisher = none := by
      refine Option.eq_none_iff_forall_ne_some.mpr fun n hn => ?_
      obtain ⟨q', present', returned, _⟩ := h.published phase hn
      rw [present, Option.some.injEq] at present'
      subst present'
      simp [crashed] at returned
    refine ⟨lost, ?_⟩
    rw [reckoned.forwarded, reckoned.dropped, reckoned.received, lost, passed]
    rfl

/-- Two readings and room for one in the fan-out: one is published and the other dropped. -/
theorem accounted_with_one_drop :
    ∃ (c : Config) (p : Equipment) (m : Simulation) (report : SimReport), Reachable c p m ∧
      c.publishes = true ∧ m.coordinator.phase = .ended (.ok report) ∧
      report.publisher = some { success := 1 } ∧ report.received = 1 + report.dropped ∧
      ∀ s ∈ report.producers.toList,
        s.sent = (m.scene.metrics.producer s.producer).published +
          (m.scene.metrics.producer s.producer).failureCount := by
  let c : Config := { producers := 2, capacity := 1, publishes := true }
  let p : Equipment :=
    { clock := .fixed default, sources := fun _ _ _ => .source fun _ => .value default
      broker := some { kind := .recording } }
  -- the publisher does not look before the second reading has found the fan-out full
  let cues : List Cue := [.event .publisher, .event .aggregator, .event (.supervisor 0),
    .event (.supervisor 1), .event (.run 0), .event (.run 1), .time 100000000, .event (.run 0),
    .event .aggregator, .event (.run 1), .event .aggregator, .event .publisher, .outside .cancel,
    .event (.shutdown .cancellation), .event (.run 0), .event (.run 1), .event (.supervisor 0),
    .event (.supervisor 1), .event (.join 0), .event (.join 1), .event .coordinator,
    .event .aggregator, .event .aggregator, .event .coordinator, .event .publisher,
    .event .publisher, .event .publisher, .event .watcher, .event .coordinator]
  obtain ⟨m, reachable, counts⟩ : ∃ m, Reachable c p m ∧
      decide (m.report?.map SimReport.publisher = some (some { success := 1 })) = true :=
    exists_reachable cues (by decide)
  obtain ⟨report, ended, hn⟩ := Option.map_eq_some_iff.mp (of_decide_eq_true counts)
  have phase := phase_of_report? ended
  obtain ⟨_, reported⟩ := reachable.publish_accounts rfl
  obtain ⟨all, slots⟩ := (reported report phase).1 _ hn
  exact ⟨c, p, m, report, reachable, rfl, phase, hn, all, slots rfl rfl⟩

end Simulation
end SensorFleet
