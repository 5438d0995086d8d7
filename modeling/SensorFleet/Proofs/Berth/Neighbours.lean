import SensorFleet.Proofs.Berth.Execution

/-!
The slots of a simulation. Whatever the coordinator, the watcher, the aggregator, the publisher and
the other slots do spares a slot. So each slot of a simulation goes through an execution of its own,
and what holds of a slot in all executions holds of it there.
-/
namespace SensorFleet

namespace Scene.Spares
variable {s s' : Scene} {id : ProducerId}

theorem log (h : s.Spares id s') {n : Notice} (unmoved : (Happening.notice n).regards id = false) :
    s.Spares id (s'.log n) := h.record unmoved

theorem move (h : s.Spares id s') {other : ProducerId} (foreign : other ≠ id)
    (source target : SlotState) : s.Spares id (s'.log (.slotMoved other source target)) :=
  h.record (decide_eq_false foreign)

theorem count (h : s.Spares id s') {o : Observation} (unrestarted : o.adds (.restarts id) = 0) :
    s.Spares id (s'.count o) := by
  refine h.trans ?_
  rw [count_eq]
  refine ⟨rfl, rfl, rfl, rfl, rfl, ?_, rfl⟩
  dsimp only
  split
  · rw [Metrics.figure_note, unrestarted, Int.add_zero]
  · rfl

theorem setBroker (h : s.Spares id s') (b : Broker) : s.Spares id { s' with broker := b } :=
  h.trans ⟨rfl, rfl, rfl, rfl, rfl, rfl, rfl⟩

theorem readClock (h : s.Spares id s') : s.Spares id s'.readClock.2 :=
  h.trans ⟨rfl, rfl, rfl, rfl, rfl, rfl, rfl⟩

theorem makeSource (h : s.Spares id s') {other : ProducerId} (foreign : other ≠ id) :
    s.Spares id (s'.makeSource other).2 := by
  refine h.trans ⟨rfl, rfl, rfl, rfl, ?_, rfl, ?_⟩
  · rw [(s'.makeSource_makes other).created, Std.ExtTreeMap.getD_insert]
    simp [foreign]
  · have unconcerned : (Happening.sourceMade other).regards id = false := decide_eq_false foreign
    have recorded := s'.doings_record (.sourceMade other) id
    rw [unconcerned] at recorded
    exact recorded.trans (List.append_nil _)

theorem abandonRecv (h : s.Spares id s') (stage : Stage) (who : Party) (parked : Bool) :
    s.Spares id (s'.abandonRecv stage who parked) := by
  unfold Scene.abandonRecv
  split
  · exact h.setQueue stage _
  · exact h

theorem afterSend (h : s.Spares id s') {r : Reading} (foreign : r.producer ≠ id)
    (look : SendLook × ReadingQueue) : s.Spares id (s'.afterSend .primary r look).2 := by
  obtain ⟨look, q⟩ := look
  cases look with
  | accepted => exact (h.setQueue .primary q).record (decide_eq_false foreign)
  | refused | waits => exact h.setQueue .primary q

theorem offer (h : s.Spares id s') (r : Reading) : s.Spares id (s'.offer .fanout r).2 := by
  unfold Scene.offer
  split
  · exact (h.setQueue .fanout _).record rfl
  · exact h.setQueue .fanout _

theorem logPath (h : s.Spares id s') {other : ProducerId} (foreign : other ≠ id)
    (source : SlotState) (path : List SlotState) : s.Spares id (s'.logPath other source path) := by
  induction path generalizing s' source with
  | nil => exact h
  | cons target rest ih => exact ih (h.move foreign source target) target

end Scene.Spares

section Tasks
variable {s s₁ : Scene} {id : ProducerId}

namespace Aggregator

theorem forward_spares (h : s.Spares id s₁) (a : Aggregator) (r : Reading) :
    s.Spares id (a.forward s₁ r).2 := by
  have offered := h.offer r
  unfold forward
  generalize s₁.offer .fanout r = look at offered
  obtain ⟨refusal, s₂⟩ := look
  cases refusal with
  | none => exact offered
  | some e =>
    refine (offered.count rfl).log ?_
    split <;> rfl

theorem receive_spares (h : s.Spares id s₁) (a : Aggregator) (r : Reading) :
    s.Spares id (a.receive s₁ r).2 := by
  have told := (h.count (o := .readingReceived) rfl).log (n := .readingReceived r.producer r.value)
    rfl
  unfold receive
  dsimp only
  split
  · exact forward_spares told _ r
  · exact told

theorem finish_spares (h : s.Spares id s₁) (a : Aggregator) : s.Spares id (a.finish s₁).2 := by
  unfold finish
  dsimp only
  split
  · exact (h.close .fanout).log rfl
  · exact h.log rfl

theorem step_spares (a : Aggregator) (s : Scene) (id : ProducerId) : s.Spares id (a.step s).2 := by
  have hs := Scene.Spares.refl s id
  unfold step
  split
  · unfold start
    split
    · exact hs
    · exact hs.log rfl
  next ticker parked _ =>
    have leave := hs.abandonRecv .primary .aggregator parked
    dsimp only
    split
    · exact leave.log rfl
    · split
      · exact leave.log rfl
      · have looked := hs.recv .primary .aggregator parked
        generalize s.recv .primary .aggregator parked = look at looked
        obtain ⟨look, s₁⟩ := look
        cases look with
        | item r => exact receive_spares looked _ r
        | ended => exact finish_spares looked a
        | waits => exact looked
  · exact hs

end Aggregator

namespace Publisher

theorem settle_spares (h : s.Spares id s₁) (p : Publisher) (ticker : Ticker) (r : Reading)
    (outcome : PublishOutcome) : s.Spares id (p.settle s₁ ticker r outcome).2 := by
  have noted : s.Spares id (s₁.record (.publishOver r outcome)) := h.record rfl
  cases outcome with
  | published | dropped => exact noted.count rfl
  | failed e =>
    refine (noted.count rfl).log ?_
    split <;> rfl

theorem conclude_spares (h : s.Spares id s₁) (p : Publisher) (ticker : Ticker) (r : Reading)
    (started : Nat) (answer : Answer) : s.Spares id (p.conclude s₁ ticker r started answer).2 := by
  cases answer with
  | crashed c => exact h
  | accepted | failed e => exact settle_spares (h.count rfl) _ _ _ _

theorem publish_spares (h : s.Spares id s₁) (p : Publisher) (ticker : Ticker) (r : Reading) :
    s.Spares id (p.publish s₁ ticker r).2 := by
  have begun : s.Spares id (s₁.record (.publishBegun r)) := h.record rfl
  unfold publish
  split
  · exact settle_spares h _ _ _ _
  · split
    · exact settle_spares h _ _ _ _
    · dsimp only
      split
      · exact conclude_spares (begun.setBroker _) _ _ _ _ _
      · exact begun.setBroker _

theorem step_spares (p : Publisher) (s : Scene) (id : ProducerId) : s.Spares id (p.step s).2 := by
  have hs := Scene.Spares.refl s id
  unfold step
  split
  · unfold start
    split
    · exact hs
    · exact (hs.log rfl).count rfl
  next ticker parked _ =>
    have leave := hs.abandonRecv p.stage .publisher parked
    unfold stepWaiting
    dsimp only
    split
    · exact leave.log rfl
    · split
      · exact hs
      · split
        · exact leave.log rfl
        · split
          · exact (leave.count rfl).log rfl
          · have looked := hs.recv p.stage .publisher parked
            generalize s.recv p.stage .publisher parked = look at looked
            obtain ⟨look, s₁⟩ := look
            cases look with
            | item r => exact publish_spares looked p ticker r
            | ended => exact (looked.count rfl).log rfl
            | waits => exact looked
  · unfold stepPublishing
    dsimp only
    split
    · exact conclude_spares (hs.setBroker _) _ _ _ _ _
    · split
      · exact conclude_spares hs _ _ _ _ _
      · split
        · exact hs
        · split
          · exact settle_spares (hs.log rfl) _ _ _ _
          · exact hs
  · exact hs

end Publisher

theorem Station.step_spares {t : Station} (who : Party) (s : Scene) (foreign : t.run.id ≠ id)
    (own : ∀ r, t.pending? = some r → r.producer = t.run.id) :
    s.Spares id (t.step who s).2 := by
  have hs := Scene.Spares.refl s id
  have sends {t₁ : Station} {s₁ : Scene} (h : s.Spares id s₁) (ticker : Ticker) {r : Reading}
      (mine : r.producer = t.run.id) (look : SendLook × ReadingQueue) :
      s.Spares id (t₁.afterSend ticker r (s₁.afterSend .primary r look)).2 := by
    have sent := h.afterSend (mine ▸ foreign) look
    generalize s₁.afterSend .primary r look = looked at sent
    obtain ⟨look, s₂⟩ := looked
    cases look with
    | accepted => exact sent.count rfl
    | refused | waits => exact sent
  unfold step
  cases phase : t.run.phase with
  | created =>
    dsimp only
    split
    · exact hs
    · exact hs.log rfl
  | ticking ticker =>
    dsimp only
    split
    · exact hs.log rfl
    · have drawn : s.Spares id (s.record (.sampled t.run.id)) := hs.record (decide_eq_false foreign)
      cases draw : t.run.source t.run.drawn with
      | crash c =>
        rw [sample_crash draw]
        exact drawn
      | value x =>
        rw [sample_value draw]
        exact sends drawn.readClock _ rfl _
  | sending ticker r => exact sends hs ticker (own r (by simp [pending?, phase])) _
  | ended e => exact hs

namespace Supervisor

theorem finish_spares (h : s.Spares id s₁) {t : Supervisor} (foreign : t.slot.id ≠ id) :
    s.Spares id (t.finish s₁).2 := by
  unfold finish
  rw [Slot.stop_eq]
  exact h.logPath foreign _ _

theorem launch_spares (h : s.Spares id s₁) {t : Supervisor} (foreign : t.slot.id ≠ id) :
    s.Spares id (t.launch s₁).2 := by
  unfold launch
  split
  · exact finish_spares h foreign
  · have made := h.makeSource foreign
    generalize s₁.makeSource t.slot.id = creation at made
    obtain ⟨creation, s₂⟩ := creation
    cases creation with
    | crash c => exact made
    | source source =>
      dsimp only
      cases started : t.slot.startRun with
      | error e => exact made
      | ok slot =>
        have foreign : slot.id ≠ id := Slot.startRun_id started ▸ foreign
        exact (made.move foreign _ _).count rfl

theorem afterCrash_spares (h : s.Spares id s₁) {t : Supervisor} (foreign : t.slot.id ≠ id)
    (c : Crash) : s.Spares id (t.afterCrash s₁ c).2 := by
  unfold afterCrash
  cases recorded : t.slot.recordFault c.message with
  | error e => exact h
  | ok slot =>
    have foreign : slot.id ≠ id := Slot.recordFault_id recorded ▸ foreign
    have told := ((h.move foreign t.slot.state .faulted).count (o := .producerRestarted slot.id)
      (if_neg foreign)).log (n := .producerFaulted ⟨slot.id, slot.attempts, c.message⟩) rfl
    dsimp only
    split
    · exact finish_spares (told.log rfl) foreign
    · cases moved : slot.moveTo .starting with
      | error e => exact told
      | ok next =>
        obtain rfl := Slot.moveTo_ok moved
        exact launch_spares ((told.move foreign _ _).log rfl) foreign

theorem afterRun_spares (h : s.Spares id s₁) {t : Supervisor} (foreign : t.slot.id ≠ id)
    (e : Ending RunResult) : s.Spares id (t.afterRun s₁ e).2 := by
  have stopped := h.count (o := .producerStopped t.slot.id) rfl
  unfold afterRun
  cases e with
  | returned result =>
    cases result with
    | finished => exact finish_spares stopped foreign
    | refused => exact finish_spares (stopped.log rfl) foreign
  | crashed c => exact afterCrash_spares stopped foreign c

theorem step_spares {t : Supervisor} (foreign : t.slot.id ≠ id) (s : Scene) :
    s.Spares id (t.step s).2 := by
  have hs := Scene.Spares.refl s id
  unfold step
  cases t.phase with
  | created => exact launch_spares hs foreign
  | supervising station =>
    dsimp only
    cases station.ending? with
    | none => exact hs
    | some e => exact afterRun_spares (t := { t with sent := station.sent }) hs foreign e
  | ended e => exact hs

end Supervisor
end Tasks

namespace Simulation

section Coordination
variable {m : Simulation} {s : Scene} {id : ProducerId}

theorem conclude_spares (h : s.Spares id m.scene) : s.Spares id m.conclude.scene := by
  have looked := h.readClock
  unfold conclude
  split
  · exact h
  · refine Scene.Spares.log ?_ rfl
    split
    · exact (looked.log rfl).log rfl
    · exact looked.log rfl

theorem closeBroker_spares (h : s.Spares id m.scene) : s.Spares id m.closeBroker.scene := by
  have closed (b : Broker) (error : Option PublishError) : s.Spares id (Scene.record
      { (if b.isScripted then m.scene else m.scene.log .brokerClosing) with broker := b }
      (.brokerClosed error)) := by
    refine Scene.Spares.record (Scene.Spares.setBroker ?_ b) rfl
    split
    · exact h
    · exact h.log rfl
  unfold closeBroker
  dsimp only
  split
  · exact (closed _ _).log rfl
  · exact closed _ _

theorem joinAggregator_spares (m : Simulation) (e : Ending AggregatorReport) (id : ProducerId) :
    m.scene.Spares id (m.joinAggregator e).scene := by
  have handed (m₁ : Simulation) (h : m.scene.Spares id m₁.scene) :
      m.scene.Spares id (if m₁.publisher.isSome then
        ({ m₁ with scene := (m₁.scene.close .fanout).2 } : Simulation).enter .awaitingPublisher
        else m₁.conclude).scene := by
    split
    · exact h.close .fanout
    · exact conclude_spares h
  have hs := Scene.Spares.refl m.scene id
  cases e with
  | returned r => exact handed { m with coordinator := _ } hs
  | crashed c => exact handed ((m.log (.aggregatorTaskFailed c)).failTask c) (hs.log rfl)

theorem joinPublisher_spares (m : Simulation) (e : Ending PublisherReport) (id : ProducerId) :
    m.scene.Spares id (m.joinPublisher e).scene := by
  have concluded (m₁ : Simulation) (h : m.scene.Spares id m₁.scene) :
      m.scene.Spares id m₁.closeBroker.conclude.scene := conclude_spares (closeBroker_spares h)
  have hs := Scene.Spares.refl m.scene id
  cases e with
  | returned r => exact concluded { m with coordinator := _ } hs
  | crashed c => exact concluded (m.log (.publisherTaskFailed c)) (hs.log rfl)

theorem closeQueue_spares (m : Simulation) (id : ProducerId) :
    m.scene.Spares id m.closeQueue.scene := by
  have closed := (Scene.Spares.refl m.scene id).close .primary
  unfold closeQueue
  dsimp only [enter]
  split
  · exact closed.log rfl
  · exact closed

theorem stepWatcher_spares (m : Simulation) (e : Ending PublisherReport) (id : ProducerId) :
    m.scene.Spares id (m.stepWatcher e).scene := by
  have closed := (Scene.Spares.refl m.scene id).close .fanout
  unfold stepWatcher
  dsimp only
  split
  · exact closed.log rfl
  · exact closed

theorem join_spares (m : Simulation) (i : Nat) (t : Supervisor) (id : ProducerId) :
    m.scene.Spares id (m.join i t).scene := by
  have hs := Scene.Spares.refl m.scene id
  unfold join
  cases t.ending? with
  | none =>
    dsimp only
    split <;> exact hs
  | some e =>
    cases e with
    | crashed c =>
      dsimp only
      split <;> exact hs.log rfl
    | returned r =>
      cases r with
      | ok report =>
        dsimp only
        split <;> exact hs
      | error e =>
        dsimp only
        split <;> exact hs.log rfl

end Coordination
end Simulation

namespace Berth

structure Mirrors (o : Berth) (m : Simulation) (i : Nat) (t : Supervisor) : Prop where
  party : o.party = .slot i
  scene : o.scene = m.scene
  supervisor : t = o.supervisor ∨
    o.supervisor.hasEnded = true ∧ t = { o.supervisor with joined := true }

namespace Mirrors
variable {o : Berth} {m m' : Simulation} {i : Nat} {t : Supervisor}

theorem id (h : o.Mirrors m i t) : t.slot.id = o.id := by
  rcases h.supervisor with rfl | ⟨_, rfl⟩ <;> rfl

theorem hasEnded (h : o.Mirrors m i t) : t.hasEnded = o.supervisor.hasEnded := by
  rcases h.supervisor with rfl | ⟨_, rfl⟩ <;> rfl

theorem eq_of_live (h : o.Mirrors m i t) (live : t.hasEnded = false) : t = o.supervisor := by
  refine h.supervisor.resolve_right fun ended => ?_
  cases (h.hasEnded.trans ended.1).symm.trans live

theorem enter (h : o.Mirrors m i t) : (o.enter m'.scene).Mirrors m' i t :=
  ⟨h.party, rfl, h.supervisor⟩

theorem spared (h : o.Mirrors m i t) (spares : m.scene.Spares t.slot.id m'.scene) :
    ∃ o', o.Leads o' ∧ o'.Mirrors m' i t := by
  rw [← h.scene, h.id] at spares
  exact ⟨_, .single (.others spares), h.enter⟩

theorem supervise (h : o.Mirrors m i t) (ready : t.isReady = true)
    (scene : m'.scene = (t.step m.scene).2) :
    ∃ o', o.Leads o' ∧ o'.Mirrors m' i (t.step m.scene).1 := by
  obtain rfl := h.eq_of_live (Supervisor.not_hasEnded_of_isReady ready)
  rw [← h.scene] at scene ⊢
  exact ⟨_, .single (.supervisor ready), h.party, scene.symm, .inl rfl⟩

theorem run (h : o.Mirrors m i t) {station : Station} (phase : t.phase = .supervising station)
    (ready : station.isReady (.slot i) m.scene = true)
    (scene : m'.scene = (t.stepRun (.slot i) m.scene).2) :
    ∃ o', o.Leads o' ∧ o'.Mirrors m' i (t.stepRun (.slot i) m.scene).1 := by
  obtain rfl := h.eq_of_live (Supervisor.not_hasEnded_of_supervising phase)
  rw [← h.scene, ← h.party] at scene ready ⊢
  have runReady : o.supervisor.isRunReady o.party o.scene = true := by
    simpa [Supervisor.isRunReady, phase] using ready
  exact ⟨_, .single (.run runReady), h.party, scene.symm, .inl rfl⟩

end Mirrors
end Berth

namespace Simulation
variable {c : Config} {p : Equipment} {m m' : Simulation}

theorem Reachable.leads (h : Reachable c p m) (few : c.producers < UInt32.size) (turn : Turn m m')
    {i : Nat} {t' : Supervisor} (found' : m'.supervisors[i]? = some t') :
    ∃ t, m.supervisors[i]? = some t ∧
      ∀ o : Berth, o.Mirrors m i t → ∃ o', o.Leads o' ∧ o'.Mirrors m' i t' := by
  have rest (supervisors : m'.supervisors = m.supervisors)
      (spares : m.scene.Spares t'.slot.id m'.scene) : ∃ t, m.supervisors[i]? = some t ∧
        ∀ o : Berth, o.Mirrors m i t → ∃ o', o.Leads o' ∧ o'.Mirrors m' i t' :=
    ⟨t', supervisors ▸ found', fun o mirrors => mirrors.spared spares⟩
  have staffed := h.staffed
  cases turn with
  | shutdown cause phase =>
    refine ⟨t', found', fun o mirrors => ?_⟩
    -- for the slot these are two turns: the notice of the others, and the cancellation
    have noted : o.scene.Spares o.id (m.scene.log cause.notice) := by
      rw [mirrors.scene]
      exact (Scene.Spares.refl _ _).log (by cases cause <;> rfl)
    exact ⟨_, .tail (.single (.others noted)) .cancel, mirrors.party, rfl, mirrors.supervisor⟩
  | closeQueue phase => exact rest rfl (closeQueue_spares m _)
  | joinAggregator phase ended =>
    exact rest (joinAggregator_takes m _).keeps.supervisors (joinAggregator_spares m _ _)
  | joinPublisher phase watched =>
    exact rest (joinPublisher_takes m _).keeps.supervisors (joinPublisher_spares m _ _)
  | @publisher q present ready => exact rest rfl (q.step_spares m.scene _)
  | watcher unseen present ended => exact rest rfl (stepWatcher_spares m _ _)
  | aggregator ready => exact rest rfl (m.aggregator.step_spares m.scene _)
  | @supervisor j u found ready =>
    rcases found_of_set found' with ⟨rfl, rfl⟩ | ⟨hne, found₁⟩
    · exact ⟨u, found, fun o mirrors => mirrors.supervise ready rfl⟩
    · refine ⟨t', found₁, fun o mirrors => mirrors.spared ?_⟩
      exact Supervisor.step_spares (h.ids_ne few found₁ found hne.symm) m.scene
  | @run j u station found phase ready =>
    rcases found_of_set found' with ⟨rfl, rfl⟩ | ⟨hne, found₁⟩
    · exact ⟨u, found, fun o mirrors => mirrors.run phase ready rfl⟩
    · refine ⟨t', found₁, fun o mirrors => mirrors.spared ?_⟩
      have foreign := h.ids_ne few found₁ found hne.symm
      obtain ⟨id, _, own⟩ := (staffed.member j u found).1.station station phase
      rw [Supervisor.stepRun_eq phase]
      exact Station.step_spares _ _ (id ▸ foreign) fun r waits => (own r waits).trans id.symm
  | @join j left u phase found ended unjoined =>
    have spares := join_spares m j u t'.slot.id
    rw [(join_joins phase ended j).supervisors] at found'
    rcases found_of_set found' with ⟨rfl, rfl⟩ | ⟨hne, found₁⟩
    · refine ⟨u, found, fun o mirrors => ?_⟩
      obtain ⟨o', leads, after⟩ := mirrors.spared spares
      refine ⟨o', leads, after.party, after.scene, .inr ⟨after.hasEnded.symm.trans ended, ?_⟩⟩
      rcases after.supervisor with rfl | ⟨_, rfl⟩ <;> rfl
    · exact ⟨t', found₁, fun o mirrors => mirrors.spared spares⟩
  | time later =>
    refine ⟨t', found', fun o mirrors => ⟨_, .single (.time (mirrors.scene ▸ later)), ?_⟩⟩
    exact ⟨mirrors.party, by rw [Berth.enter, mirrors.scene], mirrors.supervisor⟩
  | cancel =>
    refine ⟨t', found', fun o mirrors => ⟨_, .single .cancel, ?_⟩⟩
    exact ⟨mirrors.party, by rw [Berth.enter, mirrors.scene], mirrors.supervisor⟩
  | turn b => exact rest rfl ((Scene.Spares.refl m.scene _).setBroker _)

/-- Each slot of a simulation stands as a slot in an execution of its own does. -/
theorem Reachable.berth (h : Reachable c p m) (few : c.producers < UInt32.size) {i : Nat}
    {t : Supervisor} (found : m.supervisors[i]? = some t) :
    ∃ o : Berth, o.Reachable ∧ o.Mirrors m i t := by
  refine h.invariant (P := fun m => ∀ i t, m.supervisors[i]? = some t →
    ∃ o : Berth, o.Reachable ∧ o.Mirrors m i t) ?_ ?_ i t found
  · intro m started i t found
    have scene := start_scene started
    obtain rfl := (start_started started).found found
    let o : Berth := { party := .slot i, supervisor := .new (idAt i) c.interval, scene := m.scene }
    have fresh : o.Fresh := by
      refine ⟨rfl, rfl, rfl, rfl, ?_, ?_, ?_⟩
      all_goals
        dsimp only [o]
        rw [scene]
        rfl
    exact ⟨o, ⟨o, fresh, .refl⟩, rfl, rfl, .inl rfl⟩
  · intro m m' prior turn each i t' found'
    obtain ⟨t, found, follows⟩ := prior.leads few turn found'
    obtain ⟨o, reachable, mirrors⟩ := each i t found
    obtain ⟨o', leads, mirrors'⟩ := follows o mirrors
    exact ⟨o', reachable.later leads, mirrors'⟩

end Simulation
end SensorFleet
