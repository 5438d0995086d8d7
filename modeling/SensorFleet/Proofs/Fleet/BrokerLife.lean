import SensorFleet.Proofs.Fleet.Publishing
import SensorFleet.Proofs.Fleet.UnusedBroker
import SensorFleet.Proofs.Fleet.Verdict

/-!
The life of the broker in a run. It has one publish in flight at most, and it is closed once, at the
end, when nobody is left who could begin another. A run that ends well says so after that. A run
that does not publish never turns to the broker.
-/
namespace SensorFleet

def Publisher.Stands (q : Publisher) (l : Link) : Prop :=
  l = q.flight?.elim .idle (fun f => .flying f.1) ∨
    (∃ c, q.ending? = some (.crashed c)) ∧ ∃ r, l = .flying r

theorem Publisher.Stands.isOpen {q : Publisher} {l : Link} (h : q.Stands l) : l.isOpen = true := by
  rcases h with rfl | ⟨_, r, rfl⟩
  · cases q.flight? <;> rfl
  · rfl

namespace Publisher
variable {p p' : Publisher} {s s' : Scene} {l : Link}

theorem Leaves.after {ds : List Dealing} {b : Broker} {n : PublisherReport}
    {flight : Option (Reading × PendingPublish)} (h : p.Leaves s ds b n flight p' s')
    (before : Link.after? s.dealings = some l) :
    Link.after? s'.dealings = ds.foldlM Link.next? l := by
  rw [h.dealings, Link.after?_append, before, Option.bind_some]

theorem Hears.stands {r : Reading} {ds : List Dealing} {b : Broker} {a : Answer}
    (h : p.Hears r s ds b p' s' a) (before : Link.after? s.dealings = some l)
    (asked : ds.foldlM Link.next? l = some (.flying r)) :
    ∃ l', Link.after? s'.dealings = some l' ∧ p'.Stands l' := by
  cases h with
  | outcome outcome given leaves =>
    have settled := leaves.after before
    rw [List.foldlM_append, asked] at settled
    refine ⟨.idle, by simpa [Link.next?] using settled, .inl ?_⟩
    rw [leaves.flight]
    rfl
  | crash c leaves ended =>
    exact ⟨.flying r, (leaves.after before).trans asked, .inr ⟨⟨c, ended⟩, r, rfl⟩⟩

theorem Speaks.stands (h : p.Speaks s p' s') (live : p.ending? = none) (stands : p.Stands l)
    (before : Link.after? s.dealings = some l) :
    ∃ l', Link.after? s'.dealings = some l' ∧ p'.Stands l' := by
  have own : l = p.flight?.elim .idle (fun f => .flying f.1) := by
    rcases stands with own | ⟨⟨c, crashed⟩, _⟩
    · exact own
    · simp [live] at crashed
  cases h with
  | rests leaves =>
    refine ⟨l, leaves.after before, .inl ?_⟩
    rw [leaves.flight]
    exact own
  | declines r outcome idle unpublished leaves =>
    have settled := leaves.after before
    rw [own, idle] at settled
    refine ⟨.idle, by simpa [Link.next?] using settled, .inl ?_⟩
    rw [leaves.flight]
    rfl
  | begins r pending b idle started leaves =>
    have begun := leaves.after before
    rw [own, idle] at begun
    refine ⟨.flying r, by simpa [Link.next?] using begun, .inl ?_⟩
    rw [leaves.flight]
    rfl
  | asks r a b idle started hears =>
    refine hears.stands before ?_
    rw [own, idle]
    simp [Link.next?]
  | hears r pending a b flying finished hears =>
    refine hears.stands before ?_
    rw [own, flying]
    rfl
  | givesUp r pending outcome flying unpublished leaves =>
    have settled := leaves.after before
    rw [own, flying] at settled
    refine ⟨.idle, by simpa [Link.next?] using settled, .inl ?_⟩
    rw [leaves.flight]
    rfl

end Publisher

namespace Simulation

inductive Deals (m m' : Simulation) : Prop
  | apart (scene : m.scene.Apart m'.scene) (publisher : m'.publisher = m.publisher)
      (result : m'.result? = m.result?)
  | turns (switch : BrokerSwitch) (broker : m'.scene.broker = m.scene.broker.turn switch)
      (dealings : m'.scene.dealings = m.scene.dealings) (publisher : m'.publisher = m.publisher)
      (result : m'.result? = m.result?)
  | speaks (q q' : Publisher) (before : m.publisher = some q) (live : q.ending? = none)
      (after : m'.publisher = some q') (speaks : q.Speaks m.scene q' m'.scene)
      (result : m'.result? = m.result?)
  | leaves (r : Except SimError SimReport) (absent : m.publisher = none)
      (publisher : m'.publisher = none) (going : m.result? = none) (result : m'.result? = some r)
      (broker : m'.scene.broker = m.scene.broker)
      (dealings : m'.scene.dealings = m.scene.dealings ++ farewells r)
  | closes (r : Except SimError SimReport) (error : Option PublishError)
      (phase : m.coordinator.phase = .awaitingPublisher) (watched : m.watched.isSome = true)
      (publisher : m'.publisher = m.publisher) (result : m'.result? = some r)
      (broker : m'.scene.broker = m.scene.broker.close.2)
      (dealings : m'.scene.dealings = m.scene.dealings ++ .closed error :: farewells r)

theorem result?_of_phase {m : Simulation} {r : Except SimError SimReport}
    (h : m.coordinator.phase = .ended r) : m.result? = some r := by
  simp [result?, h]

theorem phase_of_result? {m : Simulation} {r : Except SimError SimReport}
    (h : m.result? = some r) : m.coordinator.phase = .ended r := by
  unfold result? at h
  split at h
  next r' phase => exact Option.some.inj h ▸ phase
  next => cases h

theorem Turn.deals {c : Config} {p : Equipment} {m m' : Simulation} (turn : Turn m m')
    (h : Reachable c p m) : Deals m m' := by
  cases turn with
  | shutdown cause phase =>
    have running : m.result? = none := by simp [result?, phase]
    exact .apart (shutdown_apart m cause) rfl (running ▸ rfl)
  | closeQueue phase =>
    have running : m.result? = none := by simp [result?, phase]
    exact .apart (closeQueue_apart m) rfl (running ▸ rfl)
  | @joinAggregator e phase ended =>
    have takes := joinAggregator_takes m e
    have publisher := takes.keeps.publisher
    have hphase := takes.phase
    obtain ⟨broker, dealings⟩ := joinAggregator_dealings m e
    cases present : m.publisher with
    | some q =>
      simp only [present, Option.isSome_some, if_true] at dealings hphase
      exact .apart ⟨broker, dealings⟩ publisher (by simp [result?, phase, hphase])
    | none =>
      simp only [present, Option.isSome_none, Bool.false_eq_true, if_false] at dealings
      obtain ⟨r, hr, dealings⟩ := dealings
      exact .leaves r present (publisher.trans present) (by simp [result?, phase])
        (result?_of_phase hr) broker dealings
  | @joinPublisher e phase watched =>
    obtain ⟨r, error, hr, broker, dealings⟩ := joinPublisher_dealings m e
    exact .closes r error phase (by rw [watched]; rfl) (joinPublisher_takes m e).keeps.publisher
      (result?_of_phase hr) broker dealings
  | @publisher q present ready =>
    exact .speaks q _ present (Publisher.live_of_isReady ready) rfl
      (Publisher.step_speaks (h.waits.stage q present) m.scene) rfl
  | watcher unseen present ended => exact .apart (stepWatcher_apart m _) rfl rfl
  | aggregator ready => exact .apart (m.aggregator.step_apart m.scene) rfl rfl
  | @supervisor i t found ready => exact .apart (t.step_apart m.scene) rfl rfl
  | @run i t station found phase ready =>
    rw [Supervisor.stepRun_eq phase]
    exact .apart (station.step_apart (.slot i) m.scene) rfl rfl
  | @join i left t phase found ended unjoined =>
    have joins := join_joins phase ended i
    exact .apart (join_apart m i t) joins.publisher (by simp [result?, phase, joins.phase])
  | time | cancel => exact .apart ⟨rfl, rfl⟩ rfl rfl
  | turn switch => exact .turns switch rfl rfl rfl rfl

theorem Reachable.publisher_ended {c : Config} {p : Equipment} {m : Simulation}
    (h : Reachable c p m) {r : Except SimError SimReport} (result : m.result? = some r)
    {q : Publisher} (present : m.publisher = some q) : ∃ e, q.ending? = some e := by
  obtain ⟨e, watched, _⟩ := h.collected.ended r (phase_of_result? result) (by rw [present]; rfl)
  obtain ⟨q', present', ended⟩ := h.collected.watched e watched
  rw [present, Option.some.injEq] at present'
  exact ⟨e, present' ▸ ended⟩

/-- A run goes on while its publisher does. -/
theorem Reachable.going_of_live {c : Config} {p : Equipment} {m : Simulation}
    (h : Reachable c p m) {q : Publisher} (present : m.publisher = some q)
    (live : q.ending? = none) : m.result? = none := by
  refine Option.eq_none_iff_forall_ne_some.mpr fun r result => ?_
  obtain ⟨e, ended⟩ := h.publisher_ended result present
  simp [live] at ended

structure Linked (m : Simulation) : Prop where
  absent : m.publisher = none → m.scene.dealings = m.result?.elim [] farewells
  going : m.result? = none → ∀ q, m.publisher = some q →
    ∃ l, Link.after? m.scene.dealings = some l ∧ q.Stands l
  ended : ∀ r, m.result? = some r → ∀ q, m.publisher = some q → ∃ before error l,
    m.scene.dealings = before ++ .closed error :: farewells r ∧ Link.after? before = some l ∧
      q.Stands l

theorem Linked.keep {m m' : Simulation} (h : Linked m)
    (dealings : m'.scene.dealings = m.scene.dealings) (publisher : m'.publisher = m.publisher)
    (result : m'.result? = m.result?) : Linked m' where
  absent := by rw [publisher, dealings, result]; exact h.absent
  going := by rw [result, publisher, dealings]; exact h.going
  ended := by rw [result, publisher, dealings]; exact h.ended

theorem Deals.linked {c : Config} {p : Equipment} {m m' : Simulation} (deals : Deals m m')
    (reachable : Reachable c p m) (h : Linked m) : Linked m' := by
  cases deals with
  | apart scene publisher result => exact h.keep scene.dealings publisher result
  | turns switch broker dealings publisher result => exact h.keep dealings publisher result
  | speaks q q' before live after speaks result =>
    have running := reachable.going_of_live before live
    refine ⟨by simp [after], fun _ q₁ present => ?_, by simp [result, running]⟩
    rw [after, Option.some.injEq] at present
    obtain ⟨l, linked, stands⟩ := h.going running q before
    exact present ▸ speaks.stands live stands linked
  | leaves r absent publisher going result broker dealings =>
    have nothing := h.absent absent
    rw [going] at nothing
    refine ⟨fun _ => ?_, by simp [publisher], by simp [publisher]⟩
    rw [dealings, nothing, result]
    rfl
  | closes r error phase watched publisher result broker dealings =>
    have present := reachable.collected.awaits phase
    have running : m.result? = none := by simp [result?, phase]
    refine ⟨fun none => ?_, by simp [result], fun r' hr q hq => ?_⟩
    · rw [publisher] at none
      simp [none] at present
    · rw [result, Option.some.injEq] at hr
      rw [publisher] at hq
      obtain ⟨l, linked, stands⟩ := h.going running q hq
      exact ⟨m.scene.dealings, error, l, hr ▸ dealings, linked, stands⟩

theorem start_broker {c : Config} {p : Equipment} {m : Simulation} (h : start c p = .ok m) :
    m.scene.broker = p.broker.getD { kind := .recording } ∧ m.scene.dealings = [] := by
  rw [start_scene h]
  exact ⟨rfl, rfl⟩

theorem start_linked {c : Config} {p : Equipment} {m : Simulation} (h : start c p = .ok m) :
    Linked m := by
  have started := start_started h
  obtain ⟨_, nothing⟩ := start_broker h
  obtain ⟨duration, interrupt, phase⟩ := started.phase
  have going : m.result? = none := by simp [result?, phase]
  refine ⟨fun _ => by rw [nothing, going]; rfl, fun _ q present => ?_, by simp [going]⟩
  obtain ⟨_, created, _⟩ := started.publisher_created present
  refine ⟨.idle, by rw [nothing]; rfl, .inl ?_⟩
  simp [Publisher.flight?, created]

theorem Reachable.linked {c : Config} {p : Equipment} {m : Simulation} (h : Reachable c p m) :
    Linked m :=
  h.invariant start_linked fun prior turn hm => (turn.deals prior).linked prior hm

structure AtRest (m : Simulation) : Prop where
  supervisors : ∀ t ∈ m.supervisors, t.hasEnded = true
  aggregator : m.aggregator.ending?.isSome = true
  fanout : m.scene.fanout.isClosed = true
  publisher : ∃ q e, m.publisher = some q ∧ q.ending? = some e

theorem Reachable.atRest {c : Config} {p : Equipment} {m : Simulation} (h : Reachable c p m)
    (phase : m.coordinator.phase = .awaitingPublisher) (watched : m.watched.isSome = true) :
    AtRest m where
  supervisors := by
    intro t ht
    obtain ⟨i, found⟩ := Array.getElem?_of_mem ht
    exact h.ordered.ended (by rw [phase]; rfl) found
  aggregator := h.handedOver.aggregator phase
  fanout := h.handedOver.fanout phase
  publisher := by
    obtain ⟨e, watched⟩ := Option.isSome_iff_exists.mp watched
    obtain ⟨q, present, ended⟩ := h.collected.watched e watched
    exact ⟨q, e, present, ended⟩

structure BrokerLife (m : Simulation) : Prop where
  single : ∀ before, before <+: m.scene.dealings → (Dealing.inFlight before).length ≤ 1
  opened : m.result? = none → ∀ error, .closed error ∉ m.scene.dealings
  closed : ∀ r, m.result? = some r → ∃ before error,
    m.scene.dealings = before ++ .closed error :: farewells r ∧
      (∀ error', .closed error' ∉ before) ∧
      (Dealing.inFlight before = [] ∨
        ∃ q c, m.publisher = some q ∧ q.ending? = some (.crashed c))
  released : ∀ r, m.result? = some r → ∀ q, m.publisher = some q → q.flight? = none

/-- The closing of the broker and the farewell come in order as well. -/
theorem after?_closed {before : List Dealing} {l : Link} (h : Link.after? before = some l)
    {q : Publisher} (stands : q.Stands l) (error : Option PublishError)
    (r : Except SimError SimReport) :
    ∃ l', Link.after? (before ++ .closed error :: farewells r) = some l' := by
  have last (lost : Option Reading) :
      ∃ l', (farewells r).foldlM Link.next? (.closed lost) = some l' := by
    cases r with
    | ok report => exact ⟨.parted lost, rfl⟩
    | error e => exact ⟨.closed lost, rfl⟩
  rw [Link.after?_append, h, Option.bind_some]
  rcases stands with rfl | ⟨_, r, rfl⟩
  · cases q.flight? with
    | none => exact last none
    | some f => exact last (some f.1)
  · exact last (some r)

theorem Reachable.brokerLife {c : Config} {p : Equipment} {m : Simulation} (h : Reachable c p m)
    {q : Publisher} (present : m.publisher = some q) : BrokerLife m := by
  have linked := h.linked
  have single {ds before : List Dealing} {l : Link} (hl : Link.after? ds = some l)
      (prior : before <+: ds) : (Dealing.inFlight before).length ≤ 1 := by
    obtain ⟨l', hl'⟩ := Link.after?_of_prefix hl prior
    rw [Link.inFlight_of_after hl']
    exact l'.inFlight_le_one
  cases result : m.result? with
  | none =>
    obtain ⟨l, hl, stands⟩ := linked.going result q present
    exact ⟨fun before => single hl, fun _ => (Link.open_of_after hl stands.isOpen).1,
      by simp [result], by simp [result]⟩
  | some r =>
    obtain ⟨before, error, l, dealings, hl, stands⟩ := linked.ended r result q present
    obtain ⟨e, ended⟩ := h.publisher_ended result present
    have landed := Publisher.flight?_of_ending ended
    refine ⟨fun prior hp => ?_, by simp [result], fun r' hr => ?_, fun _ _ q' present' => ?_⟩
    · obtain ⟨l', hl'⟩ := after?_closed hl stands error r
      exact single hl' (dealings ▸ hp)
    · rw [result, Option.some.injEq] at hr
      refine ⟨before, error, hr ▸ dealings, (Link.open_of_after hl stands.isOpen).1, ?_⟩
      rcases stands with rfl | ⟨⟨k, crashed⟩, _⟩
      · rw [Link.inFlight_of_after hl, landed]
        exact .inl rfl
      · exact .inr ⟨q, k, present, crashed⟩
    · rw [present, Option.some.injEq] at present'
      exact present' ▸ landed

/-- The turn that closes the broker finds nobody left. -/
theorem Deals.atRest {c : Config} {p : Equipment} {m m' : Simulation} (deals : Deals m m')
    (h : Reachable c p m) (h' : Reachable c p m') {error : Option PublishError}
    (closed : .closed error ∈ m'.scene.dealings) (unclosed : .closed error ∉ m.scene.dealings) :
    AtRest m := by
  cases deals with
  | apart scene publisher result => exact absurd (scene.dealings ▸ closed) unclosed
  | turns switch broker dealings publisher result => exact absurd (dealings ▸ closed) unclosed
  | speaks q q' before live after speaks result =>
    have running := result.trans (h.going_of_live before live)
    exact absurd closed ((h'.brokerLife after).opened running error)
  | leaves r absent publisher going result broker dealings =>
    rw [h'.linked.absent publisher, result] at closed
    cases r <;> simp [farewells] at closed
  | closes r error' phase watched publisher result broker dealings => exact h.atRest phase watched

/-- The farewell is said at the end of a run that ends well. -/
theorem Reachable.farewell {c : Config} {p : Equipment} {m : Simulation} (h : Reachable c p m)
    (said : .farewell ∈ m.scene.dealings) : ∃ report, m.result? = some (.ok report) := by
  have linked := h.linked
  have own {r : Except SimError SimReport} (said : .farewell ∈ farewells r) :
      ∃ report, r = .ok report := by
    cases r with
    | ok report => exact ⟨report, rfl⟩
    | error e => cases said
  cases present : m.publisher with
  | none =>
    rw [linked.absent present] at said
    cases result : m.result? with
    | none => simp [result] at said
    | some r =>
      rw [result] at said
      obtain ⟨report, rfl⟩ := own said
      exact ⟨report, rfl⟩
  | some q =>
    cases result : m.result? with
    | none =>
      obtain ⟨l, hl, stands⟩ := linked.going result q present
      exact absurd said (Link.open_of_after hl stands.isOpen).2
    | some r =>
      obtain ⟨before, error, l, dealings, hl, stands⟩ := linked.ended r result q present
      have unsaid := (Link.open_of_after hl stands.isOpen).2
      rw [dealings, List.mem_append, List.mem_cons] at said
      obtain ⟨report, rfl⟩ := own ((said.resolve_left unsaid).resolve_left nofun)
      exact ⟨report, rfl⟩

/-- In any execution. Without publishing, a configured broker is not used: with any broker at all
the same cues lead to the same state, in which that broker is as it was but for its switches. With
publishing, one publish at most is in flight at every moment; the broker is closed at the end of the
run and only there, once, when every supervisor, the aggregator and the publisher have ended and the
fan-out is closed. By then no publish is in flight: each that was begun is settled, unless the
publisher has crashed in it; and none is begun afterwards. A run that says it has ended gracefully
has a report for its result; it has been taken down before, and a broker in use was closed. -/
theorem broker_life_cycle {c : Config} {p : Equipment} {cues : List Cue} {m : Simulation}
    (run : run? c p cues = some m) :
    (c.publishes = false →
      (∀ b, run? c { p with broker := some b } cues = some (m.withBroker (b.turned cues))) ∧
      m.scene.dealings = m.result?.elim [] farewells) ∧
    (c.publishes = true → m.BrokerLife ∧
      ∀ cue m' error, m.next? cue = some m' → .closed error ∈ m'.scene.dealings →
        .closed error ∉ m.scene.dealings → m.AtRest) ∧
    (.farewell ∈ m.scene.dealings → ∃ report, m.result? = some (.ok report) ∧ m.TornDown ∧
      ∃ before, m.scene.dealings = before ++ [.farewell] ∧ .farewell ∉ before) := by
  have h := Reachable.of_run run
  refine ⟨fun off => ⟨fun b => ?_, h.linked.absent (h.unpublished off).1⟩, fun on => ?_, ?_⟩
  · rw [run_withBroker off, run]
    rfl
  · obtain ⟨q, present⟩ := Option.isSome_iff_exists.mp (h.accounted.present.trans on)
    refine ⟨h.brokerLife present, fun cue m' error step closed unclosed => ?_⟩
    exact ((turn_of_next step).deals h).atRest h (h.next cue step) closed unclosed
  · intro said
    obtain ⟨report, result⟩ := h.farewell said
    refine ⟨report, result, h.tornDown (phase_of_result? result), ?_⟩
    cases present : m.publisher with
    | none => exact ⟨[], by rw [h.linked.absent present, result]; rfl, by simp⟩
    | some q =>
      obtain ⟨before, error, l, dealings, hl, stands⟩ := h.linked.ended _ result q present
      refine ⟨before ++ [.closed error], by rw [dealings, List.append_assoc]; rfl, ?_⟩
      simpa using (Link.open_of_after hl stands.isOpen).2

/-- One reading is published to a broker that takes its time, and the run ends well. -/
theorem closed_after_one_publish :
    ∃ (c : Config) (p : Equipment) (cues : List Cue) (m : Simulation) (r : Reading),
      run? c p cues = some m ∧ c.publishes = true ∧
      m.scene.dealings = [.fetched r, .begun r, .settled r .published, .closed none, .farewell] ∧
      m.BrokerLife ∧ ∃ report, m.result? = some (.ok report) ∧ m.TornDown := by
  let c : Config := { producers := 1, capacity := 1, publishes := true }
  let p : Equipment :=
    { clock := .fixed default, sources := fun _ _ _ => .source fun _ => .value default
      broker := some { kind := .recording, delay := 10 } }
  let cues : List Cue := [.event .publisher, .event .aggregator, .event (.supervisor 0),
    .event (.run 0), .time 100000000, .event (.run 0), .event .aggregator, .event .publisher,
    .time 110000000, .event .publisher, .outside .cancel, .event (.shutdown .cancellation),
    .event (.run 0), .event (.supervisor 0), .event (.join 0), .event .coordinator,
    .event .aggregator, .event .aggregator, .event .coordinator, .event .publisher,
    .event .publisher, .event .publisher, .event .watcher, .event .coordinator]
  let r : Reading := ⟨1, default, default⟩
  have published : (run? c p cues).any (fun m => decide (m.scene.dealings =
      [.fetched r, .begun r, .settled r .published, .closed none, .farewell])) = true := by decide
  obtain ⟨m, run, dealings⟩ := (Option.any_eq_true _ _).mp published
  rw [decide_eq_true_eq] at dealings
  obtain ⟨_, life, farewell⟩ := broker_life_cycle run
  obtain ⟨report, result, tornDown, _⟩ := farewell (by simp [dealings])
  exact ⟨c, p, cues, m, r, run, rfl, dealings, (life rfl).1, report, result, tornDown⟩

end Simulation
end SensorFleet
