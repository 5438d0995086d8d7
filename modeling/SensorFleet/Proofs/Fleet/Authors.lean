import SensorFleet.Proofs.Fleet.Ticks

/-!
Who writes what into the journal. Each entry tells by its kind which part of the fleet it is from: the
coordinator with its watcher, a slot with its supervisor and its run, the aggregator or the publisher.
A step takes no time, and what it adds to the journal is from the part that takes it.
-/
namespace SensorFleet

inductive Author
  | coordinator
  | slot
  | aggregator
  | publisher
deriving DecidableEq, Repr

def Origin.author : Origin → Author
  | .slot | .producer | .supervisor => .slot
  | .aggregator => .aggregator
  | .publisher => .publisher
  | .coordinator | .broker => .coordinator

def Happening.author : Happening → Author
  | .notice n => n.origin.author
  | .entered .primary _ | .sourceMade _ | .sampled _ => .slot
  | .entered .fanout _ | .taken .primary _ => .aggregator
  | .taken .fanout _ | .publishBegun _ | .publishOver .. => .publisher
  | .brokerClosed _ => .coordinator

namespace Scene

structure Writes (x : Author) (s s' : Scene) : Prop where
  now : s'.now = s.now
  journal : ∃ new, s'.journal = new ++ s.journal ∧ ∀ e ∈ new, e.what.author = x

namespace Writes
variable {x : Author} {s s' s'' : Scene}

theorem refl (x : Author) (s : Scene) : s.Writes x s := ⟨rfl, [], rfl, List.forall_mem_nil _⟩

theorem trans (h : s.Writes x s') (h' : s'.Writes x s'') : s.Writes x s'' := by
  obtain ⟨new, journal, each⟩ := h.journal
  obtain ⟨new', journal', each'⟩ := h'.journal
  refine ⟨h'.now.trans h.now, new' ++ new, ?_, ?_⟩
  · rw [journal', journal, List.append_assoc]
  · exact List.forall_mem_append.mpr ⟨each', each⟩

theorem beside (h : s.Writes x s') (now : s''.now = s'.now) (journal : s''.journal = s'.journal) :
    s.Writes x s'' := h.trans ⟨now, [], journal, List.forall_mem_nil _⟩

theorem record (h : s.Writes x s') {w : Happening} (own : w.author = x) :
    s.Writes x (s'.record w) :=
  h.trans ⟨rfl, [⟨s'.now, w⟩], rfl, List.forall_mem_singleton.mpr own⟩

theorem log (h : s.Writes x s') {n : Notice} (own : n.origin.author = x) :
    s.Writes x (s'.log n) := h.record own

theorem count (h : s.Writes x s') (o : Observation) : s.Writes x (s'.count o) := by
  rw [count_eq]
  exact h.beside rfl rfl

theorem setQueue (h : s.Writes x s') (stage : Stage) (q : ReadingQueue) :
    s.Writes x (s'.setQueue stage q) := by
  cases stage <;> exact h.beside rfl rfl

theorem close (h : s.Writes x s') (stage : Stage) : s.Writes x (s'.close stage).2 :=
  h.setQueue stage _

theorem setBroker (h : s.Writes x s') (b : Broker) : s.Writes x { s' with broker := b } :=
  h.beside rfl rfl

theorem readClock (h : s.Writes x s') : s.Writes x s'.readClock.2 := h.beside rfl rfl

theorem abandonRecv (h : s.Writes x s') (stage : Stage) (who : Party) (parked : Bool) :
    s.Writes x (s'.abandonRecv stage who parked) := by
  unfold Scene.abandonRecv
  split
  · exact h.setQueue stage _
  · exact h

theorem recv (h : s.Writes .publisher s') (who : Party) (parked : Bool) :
    s.Writes .publisher (s'.recv .fanout who parked).2 := by
  have looked := s'.receives .fanout who parked
  generalize s'.recv .fanout who parked = look at looked
  cases looked with
  | item buffer => exact (h.setQueue .fanout _).record rfl
  | ended buffer closed | waits buffer opened => exact h.setQueue .fanout _

theorem afterSend (h : s.Writes .slot s') (r : Reading) (look : SendLook × ReadingQueue) :
    s.Writes .slot (s'.afterSend .primary r look).2 := by
  obtain ⟨look, q⟩ := look
  cases look with
  | accepted => exact (h.setQueue .primary q).record rfl
  | refused | waits => exact h.setQueue .primary q

theorem makeSource (h : s.Writes .slot s') (id : ProducerId) :
    s.Writes .slot (s'.makeSource id).2 := (h.record (w := .sourceMade id) rfl).beside rfl rfl

theorem logPath (h : s.Writes .slot s') (id : ProducerId) (source : SlotState)
    (path : List SlotState) : s.Writes .slot (s'.logPath id source path) := by
  induction path generalizing s' source with
  | nil => exact h
  | cons target rest ih => exact ih (h.log rfl) target

end Writes
end Scene

section Tasks
variable {s s₁ : Scene}

namespace Publisher

theorem settle_writes (h : s.Writes .publisher s₁) (p : Publisher) (ticker : Ticker) (r : Reading)
    (outcome : PublishOutcome) : s.Writes .publisher (p.settle s₁ ticker r outcome).2 := by
  have noted : s.Writes .publisher (s₁.record (.publishOver r outcome)) := h.record rfl
  cases outcome with
  | published | dropped => exact noted.count _
  | failed e =>
    apply (noted.count _).log
    split <;> rfl

theorem conclude_writes (h : s.Writes .publisher s₁) (p : Publisher) (ticker : Ticker) (r : Reading)
    (started : Nat) (answer : Answer) :
    s.Writes .publisher (p.conclude s₁ ticker r started answer).2 := by
  cases answer with
  | crashed c => exact h
  | accepted | failed e => exact settle_writes (h.count _) _ _ _ _

theorem publish_writes (h : s.Writes .publisher s₁) (p : Publisher) (ticker : Ticker) (r : Reading) :
    s.Writes .publisher (p.publish s₁ ticker r).2 := by
  have begun : s.Writes .publisher (s₁.record (.publishBegun r)) := h.record rfl
  unfold publish
  split
  · exact settle_writes h _ _ _ _
  · split
    · exact settle_writes h _ _ _ _
    · dsimp only
      split
      · exact conclude_writes (begun.setBroker _) _ _ _ _ _
      · exact begun.setBroker _

theorem step_writes {p : Publisher} (stage : p.stage = .fanout) (s : Scene) :
    s.Writes .publisher (p.step s).2 := by
  have still := Scene.Writes.refl .publisher s
  unfold step
  cases p.phase with
  | created =>
    dsimp only [start]
    split
    · exact still
    · exact (still.log rfl).count _
  | waiting ticker parked =>
    have leave := still.abandonRecv .fanout .publisher parked
    dsimp only [stepWaiting]
    rw [stage]
    split
    · exact leave.log rfl
    · split
      · exact still
      · split
        · exact leave.log rfl
        · split
          · exact (leave.count _).log rfl
          · have looked := still.recv .publisher parked
            generalize s.recv .fanout .publisher parked = look at looked
            obtain ⟨look, s₁⟩ := look
            cases look with
            | item r => exact publish_writes looked p ticker r
            | ended => exact (looked.count _).log rfl
            | waits => exact looked
  | publishing ticker r pending started timeout =>
    dsimp only [stepPublishing]
    split
    · exact conclude_writes (still.setBroker _) _ _ _ _ _
    · split
      · exact conclude_writes still _ _ _ _ _
      · split
        · exact still
        · split
          · exact settle_writes (still.log rfl) _ _ _ _
          · exact still
  | ended e => exact still

end Publisher

theorem Station.step_writes (t : Station) (who : Party) (s : Scene) :
    s.Writes .slot (t.step who s).2 := by
  have still := Scene.Writes.refl .slot s
  have sends {t₁ : Station} {s₁ : Scene} (h : s.Writes .slot s₁) (ticker : Ticker) (r : Reading)
      (look : SendLook × ReadingQueue) :
      s.Writes .slot (t₁.afterSend ticker r (s₁.afterSend .primary r look)).2 := by
    have sent := h.afterSend r look
    generalize s₁.afterSend .primary r look = looked at sent
    obtain ⟨look, s₂⟩ := looked
    cases look with
    | accepted => exact sent.count _
    | refused | waits => exact sent
  unfold step
  cases t.run.phase with
  | created =>
    dsimp only
    split
    · exact still
    · exact still.log rfl
  | ticking ticker =>
    dsimp only
    split
    · exact still.log rfl
    · have drawn : s.Writes .slot (s.record (.sampled t.run.id)) := still.record rfl
      cases draw : t.run.source t.run.drawn with
      | crash c =>
        rw [sample_crash draw]
        exact drawn
      | value x =>
        rw [sample_value draw]
        exact sends drawn.readClock _ _ _
  | sending ticker r => exact sends still ticker r _
  | ended e => exact still

namespace Supervisor

theorem finish_writes (h : s.Writes .slot s₁) (t : Supervisor) :
    s.Writes .slot (t.finish s₁).2 := by
  unfold finish
  rw [Slot.stop_eq]
  exact h.logPath _ _ _

theorem launch_writes (h : s.Writes .slot s₁) (t : Supervisor) :
    s.Writes .slot (t.launch s₁).2 := by
  unfold launch
  split
  · exact finish_writes h t
  · have made := h.makeSource t.slot.id
    generalize s₁.makeSource t.slot.id = creation at made
    obtain ⟨creation, s₂⟩ := creation
    cases creation with
    | crash c => exact made
    | source source =>
      dsimp only
      cases t.slot.startRun with
      | error e => exact made
      | ok slot => exact (made.log rfl).count _

theorem afterCrash_writes (h : s.Writes .slot s₁) (t : Supervisor) (c : Crash) :
    s.Writes .slot (t.afterCrash s₁ c).2 := by
  unfold afterCrash
  cases t.slot.recordFault c.message with
  | error e => exact h
  | ok slot =>
    have told := ((h.log (n := .slotMoved slot.id t.slot.state .faulted) rfl).count
      (.producerRestarted slot.id)).log (n := .producerFaulted ⟨slot.id, slot.attempts, c.message⟩) rfl
    dsimp only
    split
    · exact finish_writes (told.log rfl) _
    · cases slot.moveTo .starting with
      | error e => exact told
      | ok next => exact launch_writes ((told.log rfl).log rfl) _

theorem step_writes (t : Supervisor) (s : Scene) : s.Writes .slot (t.step s).2 := by
  have still := Scene.Writes.refl .slot s
  unfold step
  cases t.phase with
  | created => exact launch_writes still t
  | supervising station =>
    dsimp only
    cases station.ending? with
    | none => exact still
    | some e =>
      have stopped := still.count (.producerStopped t.slot.id)
      unfold afterRun
      cases e with
      | returned result =>
        cases result with
        | finished => exact finish_writes stopped _
        | refused => exact finish_writes (stopped.log rfl) _
      | crashed c => exact afterCrash_writes stopped _ c
  | ended e => exact still

end Supervisor
end Tasks

namespace Simulation

section Coordination
variable {m : Simulation} {s : Scene}

theorem conclude_writes (h : s.Writes .coordinator m.scene) :
    s.Writes .coordinator m.conclude.scene := by
  have looked := h.readClock
  unfold conclude
  split
  · exact h
  · refine Scene.Writes.log ?_ rfl
    split
    · exact (looked.log rfl).log rfl
    · exact looked.log rfl

theorem closeBroker_writes (h : s.Writes .coordinator m.scene) :
    s.Writes .coordinator m.closeBroker.scene := by
  have closed (b : Broker) (error : Option PublishError) : s.Writes .coordinator (Scene.record
      { (if b.isScripted then m.scene else m.scene.log .brokerClosing) with broker := b }
      (.brokerClosed error)) := by
    refine Scene.Writes.record (Scene.Writes.setBroker ?_ b) rfl
    split
    · exact h
    · exact h.log rfl
  unfold closeBroker
  dsimp only
  split
  · exact (closed _ _).log rfl
  · exact closed _ _

theorem joinAggregator_writes (m : Simulation) (e : Ending AggregatorReport) :
    m.scene.Writes .coordinator (m.joinAggregator e).scene := by
  have handed (m₁ : Simulation) (h : m.scene.Writes .coordinator m₁.scene) :
      m.scene.Writes .coordinator (if m₁.publisher.isSome then
        ({ m₁ with scene := (m₁.scene.close .fanout).2 } : Simulation).enter .awaitingPublisher
        else m₁.conclude).scene := by
    split
    · exact h.close .fanout
    · exact conclude_writes h
  have still := Scene.Writes.refl .coordinator m.scene
  cases e with
  | returned r => exact handed { m with coordinator := _ } still
  | crashed c => exact handed ((m.log (.aggregatorTaskFailed c)).failTask c) (still.log rfl)

theorem joinPublisher_writes (m : Simulation) (e : Ending PublisherReport) :
    m.scene.Writes .coordinator (m.joinPublisher e).scene := by
  have concluded (m₁ : Simulation) (h : m.scene.Writes .coordinator m₁.scene) :
      m.scene.Writes .coordinator m₁.closeBroker.conclude.scene :=
    conclude_writes (closeBroker_writes h)
  have still := Scene.Writes.refl .coordinator m.scene
  cases e with
  | returned r => exact concluded { m with coordinator := _ } still
  | crashed c => exact concluded (m.log (.publisherTaskFailed c)) (still.log rfl)

theorem closeQueue_writes (m : Simulation) :
    m.scene.Writes .coordinator m.closeQueue.scene := by
  have closed := (Scene.Writes.refl .coordinator m.scene).close .primary
  unfold closeQueue
  dsimp only [enter]
  split
  · exact closed.log rfl
  · exact closed

theorem stepWatcher_writes (m : Simulation) (e : Ending PublisherReport) :
    m.scene.Writes .coordinator (m.stepWatcher e).scene := by
  have closed := (Scene.Writes.refl .coordinator m.scene).close .fanout
  unfold stepWatcher
  dsimp only
  split
  · exact closed.log rfl
  · exact closed

theorem join_writes (m : Simulation) (i : Nat) (t : Supervisor) :
    m.scene.Writes .coordinator (m.join i t).scene := by
  have still := Scene.Writes.refl .coordinator m.scene
  unfold join
  cases t.ending? with
  | none =>
    dsimp only
    split <;> exact still
  | some e =>
    cases e with
    | crashed c =>
      dsimp only
      split <;> exact still.log rfl
    | returned r =>
      cases r with
      | ok report =>
        dsimp only
        split <;> exact still
      | error e =>
        dsimp only
        split <;> exact still.log rfl

end Coordination

/-- A turn that takes no time is a step of the aggregator, or is from another part of the fleet and
leaves the aggregator as it is. -/
theorem Turn.author {m m' : Simulation} (turn : Turn m m') (still : m'.scene.now = m.scene.now)
    (stage : ∀ q, m.publisher = some q → q.stage = .fanout) :
    (m.aggregator.isReady m.scene = true ∧ m'.aggregator = (m.aggregator.step m.scene).1 ∧
      m'.scene = (m.aggregator.step m.scene).2) ∨
    m'.aggregator = m.aggregator ∧ ∃ x ≠ Author.aggregator, m.scene.Writes x m'.scene := by
  have untouched := Scene.Writes.refl .coordinator m.scene
  have ofCoordinator (kept : m'.aggregator = m.aggregator)
      (writes : m.scene.Writes .coordinator m'.scene) : m'.aggregator = m.aggregator ∧
      ∃ x ≠ Author.aggregator, m.scene.Writes x m'.scene := ⟨kept, .coordinator, nofun, writes⟩
  have ofSlot (kept : m'.aggregator = m.aggregator) (writes : m.scene.Writes .slot m'.scene) :
      m'.aggregator = m.aggregator ∧ ∃ x ≠ Author.aggregator, m.scene.Writes x m'.scene :=
    ⟨kept, .slot, nofun, writes⟩
  cases turn with
  | aggregator ready => exact .inl ⟨ready, rfl, rfl⟩
  | shutdown cause phase =>
    have told : m.scene.Writes .coordinator (m.scene.log cause.notice) :=
      untouched.log (by cases cause <;> rfl)
    exact .inr (ofCoordinator rfl (told.beside rfl rfl))
  | closeQueue phase => exact .inr (ofCoordinator rfl (closeQueue_writes m))
  | joinAggregator phase ended =>
    exact .inr (ofCoordinator (joinAggregator_takes m _).keeps.aggregator
      (joinAggregator_writes m _))
  | joinPublisher phase watched =>
    exact .inr (ofCoordinator (joinPublisher_takes m _).keeps.aggregator
      (joinPublisher_writes m _))
  | @publisher q present ready =>
    exact .inr ⟨rfl, .publisher, nofun, Publisher.step_writes (stage q present) m.scene⟩
  | watcher unseen present ended => exact .inr (ofCoordinator rfl (stepWatcher_writes m _))
  | @supervisor i t found ready => exact .inr (ofSlot rfl (t.step_writes m.scene))
  | @run i t station found phase ready =>
    refine .inr (ofSlot rfl ?_)
    rw [Supervisor.stepRun_eq phase]
    exact station.step_writes _ m.scene
  | @join i left t phase found ended unjoined =>
    exact .inr (ofCoordinator (join_joins phase ended i).aggregator (join_writes m i t))
  | time later => exact .inr (ofCoordinator rfl (untouched.beside still rfl))
  | cancel => exact .inr (ofCoordinator rfl (untouched.beside rfl rfl))
  | turn b => exact .inr (ofCoordinator rfl (untouched.setBroker _))

end Simulation

end SensorFleet
