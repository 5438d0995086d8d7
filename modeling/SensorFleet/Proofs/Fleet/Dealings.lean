import Mathlib.Data.List.Induction
import SensorFleet.Proofs.Fleet.Coordination

/-!
Dealings with the broker. The journal tells what its only client, the publisher, has to do with it,
when the coordinator closes it, and when the run takes its leave. In good order these form a word of
a small automaton, in which there is room for one publish in flight. The runs, their supervisors and
the aggregator stay apart from the broker.
-/
namespace SensorFleet

inductive Dealing
  | fetched (r : Reading)
  | begun (r : Reading)
  | settled (r : Reading) (outcome : PublishOutcome)
  | closed (error : Option PublishError)
  /-- The run has ended gracefully. -/
  | farewell
deriving DecidableEq, Repr

namespace Dealing

/-- The publishes in flight after one more dealing. -/
def fly (rs : List Reading) : Dealing → List Reading
  | .begun r => r :: rs
  | .settled r _ => rs.erase r
  | _ => rs

/-- The publishes that were begun and have not been settled. -/
def inFlight (ds : List Dealing) : List Reading := ds.foldl fly []

end Dealing

/-- How far the client has got with the broker. When the broker is closed, a publish in which the
client has crashed may be left. -/
inductive Link
  | idle
  | holding (r : Reading)
  | flying (r : Reading)
  | closed (lost : Option Reading)
  | parted (lost : Option Reading)
deriving DecidableEq, Repr

namespace Link

def next? : Link → Dealing → Option Link
  | .idle, .fetched r => some (.holding r)
  | .holding r, .begun r' => if r' = r then some (.flying r) else none
  | .holding r, .settled r' _ | .flying r, .settled r' _ => if r' = r then some .idle else none
  | .idle, .closed _ => some (.closed none)
  | .flying r, .closed _ => some (.closed (some r))
  | .closed lost, .farewell => some (.parted lost)
  | _, _ => none

def inFlight : Link → List Reading
  | .flying r => [r]
  | .closed lost | .parted lost => lost.toList
  | _ => []

def isOpen : Link → Bool
  | .closed _ | .parted _ => false
  | _ => true

theorem inFlight_le_one (l : Link) : l.inFlight.length ≤ 1 := by
  cases l with
  | idle | holding r => exact Nat.zero_le 1
  | flying r => exact Nat.le_refl 1
  | closed lost | parted lost => cases lost <;> simp [inFlight]

theorem inFlight_next {l l' : Link} {d : Dealing} (h : l.next? d = some l') :
    Dealing.fly l.inFlight d = l'.inFlight := by
  cases l <;> cases d <;> simp only [next?, reduceCtorEq, Option.ite_none_right_eq_some,
    Option.some.injEq] at h
  case idle.fetched | idle.closed | flying.closed | closed.farewell => exact h ▸ rfl
  case holding.begun | holding.settled => exact h.2 ▸ h.1 ▸ rfl
  case flying.settled r r' outcome =>
    obtain ⟨rfl, rfl⟩ := h
    exact List.erase_cons_head ..

theorem isOpen_next {l l' : Link} {d : Dealing} (h : l.next? d = some l') (opened : l'.isOpen = true) :
    l.isOpen = true ∧ (∀ e, d ≠ .closed e) ∧ d ≠ .farewell := by
  cases l <;> cases d <;> simp only [next?, reduceCtorEq, Option.ite_none_right_eq_some,
    Option.some.injEq] at h
  case idle.fetched | holding.begun | holding.settled | flying.settled => exact ⟨rfl, nofun, nofun⟩
  case idle.closed | flying.closed | closed.farewell => simp [← h, isOpen] at opened

/-- How far the client has got after all these dealings, if they are in order. -/
def after? (ds : List Dealing) : Option Link := ds.foldlM next? .idle

theorem after?_append (ds ds' : List Dealing) :
    after? (ds ++ ds') = (after? ds).bind fun l => ds'.foldlM next? l := by
  simp only [after?, List.foldlM_append, Option.bind_eq_bind]

theorem after?_snoc {ds : List Dealing} {d : Dealing} {l' : Link} :
    after? (ds ++ [d]) = some l' ↔ ∃ l, after? ds = some l ∧ l.next? d = some l' := by
  simp only [after?_append, List.foldlM_cons, List.foldlM_nil, Option.bind_eq_bind,
    Option.pure_def, Option.bind_fun_some, Option.bind_eq_some_iff]

theorem inFlight_of_after {ds : List Dealing} {l : Link} (h : after? ds = some l) :
    Dealing.inFlight ds = l.inFlight := by
  induction ds using List.reverseRecOn generalizing l with
  | nil =>
    cases h
    rfl
  | append_singleton ds d ih =>
    obtain ⟨l₁, before, next⟩ := after?_snoc.mp h
    rw [Dealing.inFlight, List.foldl_concat, ← Dealing.inFlight, ih before, inFlight_next next]

theorem after?_of_prefix {ds before : List Dealing} {l : Link} (h : after? ds = some l)
    (prior : before <+: ds) : ∃ l', after? before = some l' := by
  obtain ⟨rest, rfl⟩ := prior
  rw [after?_append] at h
  obtain ⟨l', hl, _⟩ := Option.bind_eq_some_iff.mp h
  exact ⟨l', hl⟩

theorem open_of_after {ds : List Dealing} {l : Link} (h : after? ds = some l)
    (opened : l.isOpen = true) : (∀ e, .closed e ∉ ds) ∧ .farewell ∉ ds := by
  induction ds using List.reverseRecOn generalizing l with
  | nil => simp
  | append_singleton ds d ih =>
    obtain ⟨l₁, before, next⟩ := after?_snoc.mp h
    obtain ⟨opened₁, unclosed, going⟩ := isOpen_next next opened
    obtain ⟨closings, farewells⟩ := ih before opened₁
    refine ⟨fun e => ?_, ?_⟩
    · simp only [List.mem_append, List.mem_singleton, not_or]
      exact ⟨closings e, (unclosed e).symm⟩
    · simp only [List.mem_append, List.mem_singleton, not_or]
      exact ⟨farewells, going.symm⟩

end Link

def Happening.dealing? : Happening → Option Dealing
  | .taken .fanout r => some (.fetched r)
  | .publishBegun r => some (.begun r)
  | .publishOver r outcome => some (.settled r outcome)
  | .brokerClosed error => some (.closed error)
  | .notice (.endedGracefully _ _ _ _) => some .farewell
  | _ => none

namespace Scene

def dealings (s : Scene) : List Dealing := s.history Happening.dealing?

theorem dealings_record (s : Scene) (w : Happening) :
    (s.record w).dealings = s.dealings ++ w.dealing?.toList := s.history_record _ w

theorem dealings_setQueue (s : Scene) (stage : Stage) (q : ReadingQueue) :
    (s.setQueue stage q).dealings = s.dealings := s.history_setQueue _ stage q

theorem dealings_count (s : Scene) (o : Observation) : (s.count o).dealings = s.dealings := by
  rw [count_eq]
  rfl

structure Apart (s s' : Scene) : Prop where
  broker : s'.broker = s.broker
  dealings : s'.dealings = s.dealings

namespace Apart
variable {s s' s'' : Scene}

theorem refl (s : Scene) : s.Apart s := ⟨rfl, rfl⟩

theorem trans (h : s.Apart s') (h' : s'.Apart s'') : s.Apart s'' :=
  ⟨h'.broker.trans h.broker, h'.dealings.trans h.dealings⟩

theorem record (h : s.Apart s') {w : Happening} (hw : w.dealing? = none) : s.Apart (s'.record w) :=
  h.trans ⟨rfl, by simp [dealings_record, hw]⟩

theorem log (h : s.Apart s') {n : Notice} (hn : (Happening.notice n).dealing? = none) :
    s.Apart (s'.log n) := h.record hn

theorem count (h : s.Apart s') (o : Observation) : s.Apart (s'.count o) :=
  h.trans ⟨by rw [count_eq], dealings_count s' o⟩

theorem setQueue (h : s.Apart s') (stage : Stage) (q : ReadingQueue) :
    s.Apart (s'.setQueue stage q) :=
  h.trans ⟨by cases stage <;> rfl, dealings_setQueue s' stage q⟩

theorem close (h : s.Apart s') (stage : Stage) : s.Apart (s'.close stage).2 := h.setQueue stage _

theorem abandonRecv (h : s.Apart s') (stage : Stage) (who : Party) (parked : Bool) :
    s.Apart (s'.abandonRecv stage who parked) := by
  unfold Scene.abandonRecv
  split
  · exact h.setQueue stage _
  · exact h

theorem afterSend (h : s.Apart s') (stage : Stage) (r : Reading) (look : SendLook × ReadingQueue) :
    s.Apart (s'.afterSend stage r look).2 := by
  obtain ⟨look, q⟩ := look
  cases look with
  | accepted => exact (h.setQueue stage q).record rfl
  | refused | waits => exact h.setQueue stage q

theorem offer (h : s.Apart s') (stage : Stage) (r : Reading) : s.Apart (s'.offer stage r).2 := by
  unfold Scene.offer
  split
  · exact (h.setQueue stage _).record rfl
  · exact h.setQueue stage _

theorem recv_primary (h : s.Apart s') (who : Party) (parked : Bool) :
    s.Apart (s'.recv .primary who parked).2 := by
  have looked := s'.receives .primary who parked
  generalize s'.recv .primary who parked = look at looked
  cases looked with
  | item buffer => exact (h.setQueue .primary _).record rfl
  | ended buffer closed | waits buffer opened => exact h.setQueue .primary _

theorem logPath (h : s.Apart s') (id : ProducerId) (source : SlotState) (path : List SlotState) :
    s.Apart (s'.logPath id source path) := by
  induction path generalizing s' source with
  | nil => exact h
  | cons target rest ih => exact ih (h.log rfl) target

theorem makeSource (h : s.Apart s') (id : ProducerId) : s.Apart (s'.makeSource id).2 :=
  h.trans ⟨rfl, by simp [Scene.makeSource, Scene.dealings, history, Scene.record,
    Happening.dealing?]⟩

end Apart
end Scene

theorem Station.step_apart (t : Station) (who : Party) (s : Scene) : s.Apart (t.step who s).2 := by
  have sends {t : Station} {s s₁ : Scene} (h : s.Apart s₁) (ticker : Ticker) (r : Reading)
      (look : SendLook × ReadingQueue) :
      s.Apart (t.afterSend ticker r (s₁.afterSend .primary r look)).2 := by
    have hs := h.afterSend .primary r look
    generalize s₁.afterSend .primary r look = looked at hs
    obtain ⟨look, s₂⟩ := looked
    cases look with
    | accepted => exact hs.count _
    | refused | waits => exact hs
  have hs := Scene.Apart.refl s
  unfold step
  split
  · split
    · exact hs
    · exact hs.log rfl
  · split
    · exact hs.log rfl
    · have drawn : s.Apart (s.record (.sampled t.run.id)) := hs.record rfl
      unfold sample
      dsimp only
      cases t.run.source t.run.drawn with
      | crash c => exact drawn
      | value x =>
        have looked : s.Apart (s.record (.sampled t.run.id)).readClock.2 := drawn.trans ⟨rfl, rfl⟩
        exact sends looked _ _ _
  · exact sends hs _ _ _
  · exact hs

namespace Supervisor
variable {s s₁ : Scene}

theorem finish_apart (h : s.Apart s₁) (t : Supervisor) : s.Apart (t.finish s₁).2 := by
  unfold finish
  cases t.slot.stop with
  | error e => exact h
  | ok slot => exact h.logPath _ _ _

theorem launch_apart (h : s.Apart s₁) (t : Supervisor) : s.Apart (t.launch s₁).2 := by
  unfold launch
  split
  · exact t.finish_apart h
  · have made := h.makeSource t.slot.id
    generalize s₁.makeSource t.slot.id = making at made
    obtain ⟨creation, s₂⟩ := making
    cases creation with
    | crash c => exact made
    | source source =>
      cases t.slot.startRun with
      | error e => exact made
      | ok slot => exact (made.log rfl).count _

theorem afterCrash_apart (h : s.Apart s₁) (t : Supervisor) (c : Crash) :
    s.Apart (t.afterCrash s₁ c).2 := by
  unfold afterCrash
  cases t.slot.recordFault c.message with
  | error e => exact h
  | ok slot =>
    have faulted (n n' : Notice) (o : Observation) (hn : (Happening.notice n).dealing? = none)
        (hn' : (Happening.notice n').dealing? = none) :
        s.Apart (((s₁.log n).count o).log n') := ((h.log hn).count o).log hn'
    dsimp only
    split
    · exact finish_apart ((faulted _ _ _ rfl rfl).log rfl) _
    · cases slot.moveTo .starting with
      | error e => exact faulted _ _ _ rfl rfl
      | ok next => exact launch_apart (((faulted _ _ _ rfl rfl).log rfl).log rfl) _

theorem step_apart (t : Supervisor) (s : Scene) : s.Apart (t.step s).2 := by
  have hs := Scene.Apart.refl s
  unfold step
  split
  · exact t.launch_apart hs
  · split
    next station _ e _ =>
      have stopped := hs.count (.producerStopped t.slot.id)
      unfold afterRun
      split
      · exact finish_apart stopped _
      · exact finish_apart (stopped.log rfl) _
      · exact afterCrash_apart stopped _ _
    · exact hs
  · exact hs

end Supervisor

namespace Aggregator
variable {s s₁ : Scene}

theorem receive_apart (h : s.Apart s₁) (a : Aggregator) (r : Reading) :
    s.Apart (a.receive s₁ r).2 := by
  have hs : s.Apart ((s₁.count .readingReceived).log (.readingReceived r.producer r.value)) :=
    (h.count _).log rfl
  unfold receive
  dsimp only
  split
  · have offered := hs.offer .fanout r
    unfold forward
    generalize ((s₁.count .readingReceived).log (.readingReceived r.producer r.value)).offer .fanout r
      = look at offered
    obtain ⟨refusal, s₂⟩ := look
    cases refusal with
    | none => exact offered
    | some e => exact (offered.count _).log (by split <;> rfl)
  · exact hs

theorem finish_apart (h : s.Apart s₁) (a : Aggregator) : s.Apart (a.finish s₁).2 := by
  unfold finish
  dsimp only
  split
  · exact (h.close .fanout).log rfl
  · exact h.log rfl

theorem step_apart (a : Aggregator) (s : Scene) : s.Apart (a.step s).2 := by
  have hs := Scene.Apart.refl s
  unfold step
  split
  · unfold start
    split
    · exact hs
    · exact hs.log rfl
  next ticker parked _ =>
    dsimp only
    split
    · exact (hs.abandonRecv _ _ _).log rfl
    · split
      · exact (hs.abandonRecv _ _ _).log rfl
      · have looked := hs.recv_primary .aggregator parked
        generalize s.recv .primary .aggregator parked = look at looked
        obtain ⟨look, s₁⟩ := look
        cases look with
        | item r => exact receive_apart looked _ r
        | ended => exact finish_apart looked a
        | waits => exact looked
  · exact hs

end Aggregator

namespace Simulation

theorem shutdown_apart (m : Simulation) (cause : ShutdownCause) :
    m.scene.Apart (m.shutdown cause).scene := by
  have logged : m.scene.Apart (m.scene.log cause.notice) :=
    (Scene.Apart.refl m.scene).log (by cases cause <;> rfl)
  exact logged.trans ⟨rfl, rfl⟩

theorem closeQueue_apart (m : Simulation) : m.scene.Apart m.closeQueue.scene := by
  have closed := (Scene.Apart.refl m.scene).close .primary
  unfold closeQueue
  dsimp only [enter]
  split
  · exact closed.log rfl
  · exact closed

theorem stepWatcher_apart (m : Simulation) (e : Ending PublisherReport) :
    m.scene.Apart (m.stepWatcher e).scene := by
  have closed := (Scene.Apart.refl m.scene).close .fanout
  unfold stepWatcher
  dsimp only
  split
  · exact closed.log rfl
  · exact closed

theorem join_apart (m : Simulation) (i : Nat) (t : Supervisor) :
    m.scene.Apart (m.join i t).scene := by
  unfold join
  dsimp only
  cases ending : t.ending? with
  | none =>
    dsimp only
    split <;> exact .refl _
  | some e =>
    cases e with
    | crashed c =>
      dsimp only
      split <;> exact (Scene.Apart.refl m.scene).log rfl
    | returned r =>
      cases r with
      | ok report =>
        dsimp only
        split <;> exact .refl _
      | error e =>
        dsimp only
        split <;> exact (Scene.Apart.refl m.scene).log rfl

/-- A run takes its leave if it ends well. -/
def farewells : Except SimError SimReport → List Dealing
  | .ok _ => [.farewell]
  | .error _ => []

theorem conclude_dealings (m : Simulation) : ∃ r, m.conclude.coordinator.phase = .ended r ∧
    m.conclude.scene.broker = m.scene.broker ∧
    m.conclude.scene.dealings = m.scene.dealings ++ farewells r := by
  unfold conclude
  cases m.coordinator.failure with
  | some e => exact ⟨.error e, rfl, rfl, (List.append_nil _).symm⟩
  | none =>
    dsimp only
    generalize (SimReport.ofParts m.coordinator.runId m.coordinator.startedAt m.scene.readClock.1
      m.coordinator.slots.reverse m.coordinator.aggregated
      m.coordinator.published).withQueue m.scene.readClock.2.primary = report
    have looked : m.scene.Apart m.scene.readClock.2 := ⟨rfl, rfl⟩
    have logged : m.scene.Apart (if 0 < report.lateSends then
        (m.scene.readClock.2.log (.queueStats report.queueHighWater)).log (.lateSends report.lateSends)
        else m.scene.readClock.2.log (.queueStats report.queueHighWater)) := by
      split
      · exact (looked.log rfl).log rfl
      · exact looked.log rfl
    refine ⟨.ok report, rfl, logged.broker, ?_⟩
    exact (Scene.dealings_record _ _).trans (congrArg (· ++ _) logged.dealings)

theorem closeBroker_dealings (m : Simulation) :
    m.closeBroker.scene.broker = m.scene.broker.close.2 ∧
      m.closeBroker.scene.dealings = m.scene.dealings ++ [.closed m.scene.broker.close.1] := by
  unfold closeBroker
  generalize m.scene.broker.close = closed
  obtain ⟨error, b⟩ := closed
  have before : m.scene.Apart (if b.isScripted then m.scene else m.scene.log .brokerClosing) := by
    split
    · exact .refl _
    · exact (Scene.Apart.refl _).log rfl
  have recorded : (Scene.record
      { (if b.isScripted then m.scene else m.scene.log .brokerClosing) with broker := b }
      (.brokerClosed error)).dealings = m.scene.dealings ++ [.closed error] :=
    (Scene.dealings_record _ _).trans (congrArg (· ++ _) before.dealings)
  cases error with
  | none => exact ⟨rfl, recorded⟩
  | some e => exact ⟨rfl, ((Scene.Apart.refl _).log rfl).dealings.trans recorded⟩

/-- The publisher's result is taken, the broker is closed, and the run ends. -/
theorem joinPublisher_dealings (m : Simulation) (e : Ending PublisherReport) :
    ∃ r error, (m.joinPublisher e).coordinator.phase = .ended r ∧
      (m.joinPublisher e).scene.broker = m.scene.broker.close.2 ∧
      (m.joinPublisher e).scene.dealings = m.scene.dealings ++ .closed error :: farewells r := by
  have closed (m₁ : Simulation) (apart : m.scene.Apart m₁.scene) :
      ∃ r error, m₁.closeBroker.conclude.coordinator.phase = .ended r ∧
        m₁.closeBroker.conclude.scene.broker = m.scene.broker.close.2 ∧
        m₁.closeBroker.conclude.scene.dealings =
          m.scene.dealings ++ .closed error :: farewells r := by
    obtain ⟨broker, dealings⟩ := closeBroker_dealings m₁
    obtain ⟨r, phase, broker', dealings'⟩ := conclude_dealings m₁.closeBroker
    refine ⟨r, m₁.scene.broker.close.1, phase, ?_, ?_⟩
    · rw [broker', broker, apart.broker]
    · rw [dealings', dealings, apart.dealings, List.append_assoc]
      rfl
  cases e with
  | returned n => exact closed { m with coordinator := _ } (.refl _)
  | crashed c => exact closed (m.log (.publisherTaskFailed c)) ((Scene.Apart.refl _).log rfl)

theorem joinAggregator_dealings (m : Simulation) (e : Ending AggregatorReport) :
    (m.joinAggregator e).scene.broker = m.scene.broker ∧
      if m.publisher.isSome then (m.joinAggregator e).scene.dealings = m.scene.dealings
      else ∃ r, (m.joinAggregator e).coordinator.phase = .ended r ∧
        (m.joinAggregator e).scene.dealings = m.scene.dealings ++ farewells r := by
  have handed (m₁ : Simulation) (apart : m.scene.Apart m₁.scene)
      (publisher : m₁.publisher = m.publisher) :
      let m' := if m₁.publisher.isSome then
        ({ m₁ with scene := (m₁.scene.close .fanout).2 } : Simulation).enter .awaitingPublisher
        else m₁.conclude
      m'.scene.broker = m.scene.broker ∧
        if m.publisher.isSome then m'.scene.dealings = m.scene.dealings
        else ∃ r, m'.coordinator.phase = .ended r ∧
          m'.scene.dealings = m.scene.dealings ++ farewells r := by
    rw [publisher]
    split
    next =>
      have closed := apart.close .fanout
      exact ⟨closed.broker, closed.dealings⟩
    next =>
      obtain ⟨r, phase, broker, dealings⟩ := conclude_dealings m₁
      exact ⟨broker.trans apart.broker, r, phase, by rw [dealings, apart.dealings]⟩
  cases e with
  | returned n => exact handed { m with coordinator := _ } (.refl _) rfl
  | crashed c =>
    exact handed ((m.log (.aggregatorTaskFailed c)).failTask c) ((Scene.Apart.refl _).log rfl) rfl

end Simulation
end SensorFleet
