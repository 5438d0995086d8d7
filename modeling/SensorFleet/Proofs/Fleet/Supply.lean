import SensorFleet.Proofs.Fleet.Coordination

/-!
What a scene supplies: the instant, the clock, and the sources with the count of those that were
made. Making a source is the only step that adds to that count; every other step, of whatever task,
leaves the supply as it is, and at most looks at the clock.
-/
namespace SensorFleet

def Happening.made? : Happening → Option ProducerId
  | .sourceMade id => some id
  | _ => none

namespace Scene

def made (s : Scene) : List ProducerId := s.history Happening.made?

/-- No source was made, no time passed, and the clock was not looked at less often. -/
structure SameSupply (s s' : Scene) : Prop where
  now : s'.now = s.now
  clock : s'.clock = s.clock
  looks : s.looks ≤ s'.looks
  sources : s'.sources = s.sources
  created : s'.created = s.created
  total : s'.totalCreated = s.totalCreated
  made : s'.made = s.made

namespace SameSupply
variable {s s' s'' : Scene}

theorem refl (s : Scene) : s.SameSupply s := ⟨rfl, rfl, Nat.le_refl _, rfl, rfl, rfl, rfl⟩

theorem trans (h : s.SameSupply s') (h' : s'.SameSupply s'') : s.SameSupply s'' :=
  ⟨h'.now.trans h.now, h'.clock.trans h.clock, Nat.le_trans h.looks h'.looks,
    h'.sources.trans h.sources, h'.created.trans h.created, h'.total.trans h.total, h'.made.trans h.made⟩

theorem record (h : s.SameSupply s') {w : Happening} (hw : w.made? = none) :
    s.SameSupply (s'.record w) :=
  h.trans ⟨rfl, rfl, Nat.le_refl _, rfl, rfl, rfl, by simp [Scene.made, history_record, hw]⟩

theorem log (h : s.SameSupply s') (n : Notice) : s.SameSupply (s'.log n) := h.record rfl

theorem count (h : s.SameSupply s') (o : Observation) : s.SameSupply (s'.count o) :=
  h.trans (by rw [count_eq]; exact ⟨rfl, rfl, Nat.le_refl _, rfl, rfl, rfl, rfl⟩)

theorem setQueue (h : s.SameSupply s') (stage : Stage) (q : ReadingQueue) :
    s.SameSupply (s'.setQueue stage q) := by
  refine h.trans ?_
  cases stage <;> exact ⟨rfl, rfl, Nat.le_refl _, rfl, rfl, rfl, rfl⟩

theorem setBroker (h : s.SameSupply s') (b : Broker) : s.SameSupply { s' with broker := b } :=
  h.trans ⟨rfl, rfl, Nat.le_refl _, rfl, rfl, rfl, rfl⟩

theorem readClock (h : s.SameSupply s') : s.SameSupply s'.readClock.2 :=
  h.trans ⟨rfl, rfl, Nat.le_succ _, rfl, rfl, rfl, rfl⟩

theorem close (h : s.SameSupply s') (stage : Stage) : s.SameSupply (s'.close stage).2 :=
  h.setQueue stage _

theorem abandonRecv (h : s.SameSupply s') (stage : Stage) (who : Party) (parked : Bool) :
    s.SameSupply (s'.abandonRecv stage who parked) := by
  unfold Scene.abandonRecv
  split
  · exact h.setQueue stage _
  · exact h

theorem afterSend (h : s.SameSupply s') (stage : Stage) (r : Reading)
    (look : SendLook × ReadingQueue) : s.SameSupply (s'.afterSend stage r look).2 := by
  obtain ⟨look, q⟩ := look
  cases look with
  | accepted => exact (h.setQueue stage q).record rfl
  | refused | waits => exact h.setQueue stage q

theorem offer (h : s.SameSupply s') (stage : Stage) (r : Reading) :
    s.SameSupply (s'.offer stage r).2 := by
  unfold Scene.offer
  split
  · exact (h.setQueue stage _).record rfl
  · exact h.setQueue stage _

theorem recv (h : s.SameSupply s') (stage : Stage) (who : Party) (parked : Bool) :
    s.SameSupply (s'.recv stage who parked).2 := by
  have looked := s'.receives stage who parked
  generalize s'.recv stage who parked = look at looked
  cases looked with
  | item buffer => exact (h.setQueue stage _).record rfl
  | ended buffer closed | waits buffer opened => exact h.setQueue stage _

theorem logPath (h : s.SameSupply s') (id : ProducerId) (source : SlotState)
    (path : List SlotState) : s.SameSupply (s'.logPath id source path) := by
  induction path generalizing s' source with
  | nil => exact h
  | cons target rest ih => exact ih (h.log _) target

end SameSupply

structure Makes (s : Scene) (id : ProducerId) (s' : Scene) : Prop where
  now : s'.now = s.now
  clock : s'.clock = s.clock
  looks : s.looks ≤ s'.looks
  sources : s'.sources = s.sources
  created : s'.created = s.created.insert id (s.created.getD id 0 + 1)
  total : s'.totalCreated = s.totalCreated + 1
  made : s'.made = s.made ++ [id]

theorem makeSource_makes (s : Scene) (id : ProducerId) : s.Makes id (s.makeSource id).2 :=
  ⟨rfl, rfl, Nat.le_refl _, rfl, rfl, rfl, s.history_record Happening.made? (.sourceMade id)⟩

theorem Makes.after {s s₁ s₂ s' : Scene} {id : ProducerId} (h : s₁.Makes id s₂)
    (before : s.SameSupply s₁) (after : s₂.SameSupply s') : s.Makes id s' where
  now := after.now.trans (h.now.trans before.now)
  clock := after.clock.trans (h.clock.trans before.clock)
  looks := Nat.le_trans before.looks (Nat.le_trans h.looks after.looks)
  sources := after.sources.trans (h.sources.trans before.sources)
  created := by rw [after.created, h.created, before.created]
  total := by rw [after.total, h.total, before.total]
  made := by rw [after.made, h.made, before.made]

end Scene

theorem Station.step_sameSupply (t : Station) (who : Party) (s : Scene) :
    s.SameSupply (t.step who s).2 := by
  have hafter {t : Station} {s s₁ : Scene} (h : s.SameSupply s₁) (ticker : Ticker) (r : Reading)
      (look : SendLook × ReadingQueue) :
      s.SameSupply (t.afterSend ticker r (s₁.afterSend .primary r look)).2 := by
    have hs := h.afterSend .primary r look
    generalize s₁.afterSend .primary r look = looked at hs
    obtain ⟨look, s₂⟩ := looked
    cases look with
    | accepted => exact hs.count _
    | refused | waits => exact hs
  have hs := Scene.SameSupply.refl s
  unfold step
  split
  · split
    · exact hs
    · exact hs.log _
  · split
    · exact hs.log _
    · have drawn : s.SameSupply (s.record (.sampled t.run.id)) := hs.record rfl
      unfold sample
      dsimp only
      cases t.run.source t.run.drawn with
      | crash c => exact drawn
      | value x => exact hafter drawn.readClock _ _ _
  · exact hafter hs _ _ _
  · exact hs

namespace Aggregator

theorem forward_sameSupply {s s₁ : Scene} (h : s.SameSupply s₁) (a : Aggregator) (r : Reading) :
    s.SameSupply (a.forward s₁ r).2 := by
  have hs := h.offer .fanout r
  unfold forward
  generalize s₁.offer .fanout r = look at hs
  obtain ⟨refusal, s₂⟩ := look
  cases refusal with
  | none => exact hs
  | some e => exact (hs.count _).log _

theorem receive_sameSupply {s s₁ : Scene} (h : s.SameSupply s₁) (a : Aggregator) (r : Reading) :
    s.SameSupply (a.receive s₁ r).2 := by
  have hs := (h.count .readingReceived).log (.readingReceived r.producer r.value)
  unfold receive
  dsimp only
  split
  · exact forward_sameSupply hs _ r
  · exact hs

theorem finish_sameSupply {s s₁ : Scene} (h : s.SameSupply s₁) (a : Aggregator) :
    s.SameSupply (a.finish s₁).2 := by
  unfold finish
  dsimp only
  split
  · exact (h.close .fanout).log _
  · exact h.log _

theorem step_sameSupply (a : Aggregator) (s : Scene) : s.SameSupply (a.step s).2 := by
  have hs := Scene.SameSupply.refl s
  unfold step
  split
  · unfold start
    split
    · exact hs
    · exact hs.log _
  next ticker parked _ =>
    dsimp only
    split
    · exact (hs.abandonRecv _ _ _).log _
    · split
      · exact (hs.abandonRecv _ _ _).log _
      · have looked := hs.recv .primary .aggregator parked
        generalize s.recv .primary .aggregator parked = look at looked
        obtain ⟨look, s₁⟩ := look
        cases look with
        | item r => exact receive_sameSupply looked _ r
        | ended => exact finish_sameSupply looked a
        | waits => exact looked
  · exact hs

end Aggregator

namespace Publisher

theorem settle_sameSupply {s s₁ : Scene} (h : s.SameSupply s₁) (p : Publisher) (ticker : Ticker)
    (r : Reading) (outcome : PublishOutcome) :
    s.SameSupply (p.settle s₁ ticker r outcome).2 := by
  have hs : s.SameSupply (s₁.record (.publishOver r outcome)) := h.record rfl
  cases outcome with
  | published | dropped => exact hs.count _
  | failed e => exact (hs.count _).log _

theorem conclude_sameSupply {s s₁ : Scene} (h : s.SameSupply s₁) (p : Publisher) (ticker : Ticker)
    (r : Reading) (started : Nat) (answer : Answer) :
    s.SameSupply (p.conclude s₁ ticker r started answer).2 := by
  cases answer with
  | crashed c => exact h
  | accepted | failed e => exact settle_sameSupply (h.count _) _ _ _ _

theorem publish_sameSupply {s s₁ : Scene} (h : s.SameSupply s₁) (p : Publisher) (ticker : Ticker)
    (r : Reading) : s.SameSupply (p.publish s₁ ticker r).2 := by
  unfold publish
  split
  · exact settle_sameSupply h _ _ _ _
  · split
    · exact settle_sameSupply h _ _ _ _
    · have begun : s.SameSupply (s₁.record (.publishBegun r)) := h.record rfl
      dsimp only
      split
      · exact conclude_sameSupply (begun.setBroker _) _ _ _ _ _
      · exact begun.setBroker _

theorem finish_sameSupply {s s₁ : Scene} (h : s.SameSupply s₁) (p : Publisher) :
    s.SameSupply (p.finish s₁).2 := (h.count _).log _

theorem step_sameSupply (p : Publisher) (s : Scene) : s.SameSupply (p.step s).2 := by
  have hs := Scene.SameSupply.refl s
  unfold step
  split
  · unfold start
    split
    · exact hs
    · exact (hs.log _).count _
  next ticker parked _ =>
    have leave := hs.abandonRecv p.stage .publisher parked
    unfold stepWaiting
    dsimp only
    split
    · exact leave.log _
    · split
      · exact hs
      · split
        · exact leave.log _
        · split
          · exact (leave.count _).log _
          · have looked := hs.recv p.stage .publisher parked
            generalize s.recv p.stage .publisher parked = look at looked
            obtain ⟨look, s₁⟩ := look
            cases look with
            | item r => exact publish_sameSupply looked p ticker r
            | ended => exact finish_sameSupply looked p
            | waits => exact looked
  · unfold stepPublishing
    dsimp only
    split
    · exact conclude_sameSupply (hs.setBroker _) _ _ _ _ _
    · split
      · exact conclude_sameSupply hs _ _ _ _ _
      · split
        · exact hs
        · split
          · exact settle_sameSupply (hs.log _) _ _ _ _
          · exact hs
  · exact hs

end Publisher

namespace Simulation

theorem conclude_sameSupply (m : Simulation) : m.scene.SameSupply m.conclude.scene := by
  have looked := (Scene.SameSupply.refl m.scene).readClock
  unfold conclude
  split
  · exact .refl _
  · refine Scene.SameSupply.log ?_ _
    split
    · exact (looked.log _).log _
    · exact looked.log _

theorem closeBroker_sameSupply (m : Simulation) : m.scene.SameSupply m.closeBroker.scene := by
  have closed (b : Broker) (error : Option PublishError) : m.scene.SameSupply (Scene.record
      { (if b.isScripted then m.scene else m.scene.log .brokerClosing) with broker := b }
      (.brokerClosed error)) := by
    refine Scene.SameSupply.record (Scene.SameSupply.setBroker ?_ b) rfl
    split
    · exact .refl _
    · exact (Scene.SameSupply.refl _).log _
  unfold closeBroker
  dsimp only
  split
  · exact (closed _ _).log _
  · exact closed _ _

theorem joinAggregator_sameSupply (m : Simulation) (e : Ending AggregatorReport) :
    m.scene.SameSupply (m.joinAggregator e).scene := by
  have handed (m₁ : Simulation) (h : m.scene.SameSupply m₁.scene) :
      m.scene.SameSupply (if m₁.publisher.isSome then
        ({ m₁ with scene := (m₁.scene.close .fanout).2 } : Simulation).enter .awaitingPublisher
        else m₁.conclude).scene := by
    split
    · exact h.close .fanout
    · exact h.trans (conclude_sameSupply m₁)
  cases e with
  | returned r => exact handed { m with coordinator := _ } (.refl _)
  | crashed c =>
    exact handed ((m.log (.aggregatorTaskFailed c)).failTask c) ((Scene.SameSupply.refl _).log _)

theorem joinPublisher_sameSupply (m : Simulation) (e : Ending PublisherReport) :
    m.scene.SameSupply (m.joinPublisher e).scene := by
  have concluded (m₁ : Simulation) (h : m.scene.SameSupply m₁.scene) :
      m.scene.SameSupply m₁.closeBroker.conclude.scene :=
    (h.trans (closeBroker_sameSupply m₁)).trans (conclude_sameSupply _)
  cases e with
  | returned r => exact concluded { m with coordinator := _ } (.refl _)
  | crashed c => exact concluded (m.log (.publisherTaskFailed c)) ((Scene.SameSupply.refl _).log _)

theorem closeQueue_sameSupply (m : Simulation) : m.scene.SameSupply m.closeQueue.scene := by
  have closed := (Scene.SameSupply.refl m.scene).close .primary
  unfold closeQueue
  dsimp only [enter]
  split
  · exact closed.log _
  · exact closed

theorem stepWatcher_sameSupply (m : Simulation) (e : Ending PublisherReport) :
    m.scene.SameSupply (m.stepWatcher e).scene := by
  have closed := (Scene.SameSupply.refl m.scene).close .fanout
  unfold stepWatcher
  dsimp only
  split
  · exact closed.log _
  · exact closed

theorem join_sameSupply (m : Simulation) (i : Nat) (t : Supervisor) :
    m.scene.SameSupply (m.join i t).scene := by
  unfold join
  dsimp only
  cases ending : t.ending? with
  | none =>
    dsimp only
    split <;> exact .refl _
  | some e =>
    cases e with
    | crashed c =>
      dsimp only
      split <;> exact (Scene.SameSupply.refl m.scene).log _
    | returned r =>
      cases r with
      | ok report =>
        dsimp only
        split <;> exact .refl _
      | error e =>
        dsimp only
        split <;> exact (Scene.SameSupply.refl m.scene).log _

end Simulation
end SensorFleet
