import SensorFleet.Proofs.Fleet.Execution

/-!
Scenes without their publish path. The runs and their supervisors take the same steps in a scene
whether the publish path is there or not, and so does the aggregator, but for its counts of what it
forwarded. What the publisher does cannot be seen in what is left.
-/
namespace SensorFleet

/-- Whether it tells of the publish path, if only in one of its fields. -/
def Notice.isPublishing : Notice → Bool
  | .simulationStarted .. | .fanoutUnavailable .. | .readingDropped .. | .aggregatorStopping ..
  | .publisherExitedEarly | .publisherTaskFailed .. | .brokerCloseFailed .. => true
  | n => n.origin = .publisher || n.origin = .broker

def Happening.isPublishing : Happening → Bool
  | .notice n => n.isPublishing
  | .entered stage _ | .taken stage _ => stage = .fanout
  | .publishBegun _ | .publishOver _ _ | .brokerClosed _ => true
  | .sourceMade _ | .sampled _ => false

namespace Scene

/-- The scene without its fan-out, its broker and all that tells of them. -/
def bare (s : Scene) : Scene :=
  { s with
    fanout := .new 0
    broker := { kind := .recording }
    metrics := {}
    counts := false
    journal := s.journal.filter fun e => !e.what.isPublishing }

section Operations
variable (s : Scene)

theorem record_bare {w : Happening} (h : w.isPublishing = false) :
    s.bare.record w = (s.record w).bare := by
  simp [bare, record, h]

theorem log_bare {n : Notice} (h : n.isPublishing = false) : s.bare.log n = (s.log n).bare :=
  s.record_bare h

theorem bare_record_of_isPublishing {w : Happening} (h : w.isPublishing = true) :
    (s.record w).bare = s.bare := by
  simp [bare, record, h]

theorem bare_log_of_isPublishing {n : Notice} (h : n.isPublishing = true) :
    (s.log n).bare = s.bare := s.bare_record_of_isPublishing h

@[simp] theorem bare_bare : s.bare.bare = s.bare := by
  simp [bare]

@[simp] theorem bare_count (o : Observation) : (s.count o).bare = s.bare := by
  rw [count_eq]
  rfl

@[simp] theorem count_bare (o : Observation) : s.bare.count o = s.bare := rfl

@[simp] theorem bare_setBroker (b : Broker) : ({ s with broker := b } : Scene).bare = s.bare := rfl

@[simp] theorem bare_abandonFanout (who : Party) (parked : Bool) :
    (s.abandonRecv .fanout who parked).bare = s.bare := by
  cases parked <;> rfl

theorem bare_abandonPrimary (who : Party) (parked : Bool) :
    (s.abandonRecv .primary who parked).bare = s.bare.abandonRecv .primary who parked := by
  cases parked <;> rfl

theorem afterSend_bare (r : Reading) (look : SendLook × ReadingQueue) :
    s.bare.afterSend .primary r look = (s.afterSend .primary r look).map id bare := by
  obtain ⟨look, q⟩ := look
  cases look with
  | accepted => exact congrArg (SendLook.accepted, ·) (record_bare (s.setQueue .primary q) rfl)
  | refused | waits => rfl

theorem afterRecv_bare (look : RecvLook Reading × ReadingQueue) :
    s.bare.afterRecv .primary look = (s.afterRecv .primary look).map id bare := by
  obtain ⟨look, q⟩ := look
  cases look with
  | item r => exact congrArg (RecvLook.item r, ·) (record_bare (s.setQueue .primary q) rfl)
  | ended | waits => rfl

theorem recv_bare (who : Party) (parked : Bool) :
    s.bare.recv .primary who parked = (s.recv .primary who parked).map id bare :=
  s.afterRecv_bare _

theorem makeSource_bare (id : ProducerId) :
    s.bare.makeSource id = (s.makeSource id).map (fun made => made) bare := by
  simp [makeSource, bare, record, Happening.isPublishing]

theorem logPath_bare (id : ProducerId) (source : SlotState) (path : List SlotState) :
    s.bare.logPath id source path = (s.logPath id source path).bare := by
  induction path generalizing s source with
  | nil => rfl
  | cons target rest ih =>
    simp only [logPath]
    rw [log_bare s rfl, ih]

/-- A look at the fan-out cannot be seen. -/
theorem bare_recv (who : Party) (parked : Bool) :
    (s.recv .fanout who parked).2.bare = s.bare := by
  unfold recv
  dsimp only
  generalize (if parked = true then (s.queue .fanout).rerecv who else (s.queue .fanout).recv who)
    = look
  obtain ⟨look, q⟩ := look
  cases look with
  | item r => exact bare_record_of_isPublishing _ rfl
  | ended | waits => rfl

theorem bare_offer (r : Reading) : (s.offer .fanout r).2.bare = s.bare := by
  unfold offer
  generalize (s.queue .fanout).offer r = look
  obtain ⟨look, q⟩ := look
  cases look with
  | none => exact bare_record_of_isPublishing _ rfl
  | some e => rfl

end Operations

/-- What a bare scene decides comes out alike in all scenes that it is the bare one of. -/
theorem alike_of_bare {α : Type} {f : Scene → α × Scene} (hf : ∀ s, f s.bare = (f s).map id bare)
    {s s' : Scene} (h : s.bare = s'.bare) : (f s).1 = (f s').1 ∧ (f s).2.bare = (f s').2.bare := by
  have both : (f s).map id bare = (f s').map id bare := by rw [← hf s, h, hf s']
  exact Prod.ext_iff.mp both

end Scene

namespace Station
variable (t : Station) (s : Scene)

theorem afterSend_bare (ticker : Ticker) (r : Reading) (look : SendLook × Scene) :
    t.afterSend ticker r (look.map id Scene.bare) =
      (t.afterSend ticker r look).map id Scene.bare := by
  obtain ⟨look, s⟩ := look
  cases look with
  | accepted => simp [afterSend]
  | refused | waits => rfl

theorem sample_bare : t.sample s.bare = (t.sample s).map id Scene.bare := by
  unfold sample
  dsimp only
  rw [Scene.record_bare s rfl]
  cases t.run.source t.run.drawn <;> rfl

theorem step_bare (who : Party) : t.step who s.bare = (t.step who s).map id Scene.bare := by
  unfold step
  cases t.run.phase with
  | created =>
    dsimp only
    rw [show s.bare.now = s.now from rfl]
    cases Ticker.start? s.now t.run.interval with
    | error e => rfl
    | ok ticker => exact congrArg (Prod.mk _) (s.log_bare rfl)
  | ticking ticker =>
    dsimp only
    change (if s.cancelled then _ else _) = _
    cases s.cancelled with
    | true => exact congrArg (Prod.mk _) (s.log_bare rfl)
    | false =>
      simp only [Bool.false_eq_true, if_false]
      rw [sample_bare]
      generalize t.sample s = sampled
      obtain ⟨made, s₁⟩ := sampled
      cases made with
      | error c => rfl
      | ok made =>
        obtain ⟨r, t₁⟩ := made
        change t₁.afterSend _ r (s₁.bare.send .primary who r) =
          (t₁.afterSend _ r (s₁.send .primary who r)).map id Scene.bare
        rw [← afterSend_bare]
        exact congrArg (t₁.afterSend _ r) (s₁.afterSend_bare r _)
  | sending ticker r =>
    rw [← afterSend_bare]
    exact congrArg (t.afterSend ticker r) (s.afterSend_bare r _)
  | ended e => rfl

end Station

namespace Supervisor
variable (t : Supervisor) (s : Scene)

theorem finish_bare : t.finish s.bare = (t.finish s).map id Scene.bare := by
  unfold finish
  cases t.slot.stop with
  | error e => rfl
  | ok slot =>
    dsimp only
    rw [Scene.logPath_bare]
    rfl

theorem launch_bare : t.launch s.bare = (t.launch s).map id Scene.bare := by
  unfold launch
  change (if s.cancelled then _ else _) = _
  cases s.cancelled with
  | true => exact t.finish_bare s
  | false =>
    simp only [Bool.false_eq_true, if_false]
    rw [Scene.makeSource_bare]
    generalize s.makeSource t.slot.id = making
    obtain ⟨made, s₁⟩ := making
    cases made with
    | crash c => rfl
    | source source =>
      dsimp only [Prod.map]
      cases t.slot.startRun with
      | error e => rfl
      | ok slot =>
        dsimp only
        rw [Scene.log_bare _ rfl]
        simp

theorem afterCrash_bare (c : Crash) :
    t.afterCrash s.bare c = (t.afterCrash s c).map id Scene.bare := by
  unfold afterCrash
  cases t.slot.recordFault c.message with
  | error e => rfl
  | ok slot =>
    dsimp only
    have logged (n n' : Notice) (o : Observation) (h : n.isPublishing = false)
        (h' : n'.isPublishing = false) :
        ((s.bare.log n).count o).log n' = (((s.log n).count o).log n').bare := by
      rw [Scene.log_bare _ h, Scene.count_bare, ← Scene.bare_count, Scene.log_bare _ h']
    rw [logged _ _ _ rfl rfl]
    generalize ((s.log (.slotMoved slot.id t.slot.state .faulted)).count
      (.producerRestarted slot.id)).log (.producerFaulted ⟨slot.id, slot.attempts, c.message⟩) = s₁
    change (if s₁.cancelled then _ else _) = _
    cases s₁.cancelled with
    | true =>
      simp only [if_true]
      rw [Scene.log_bare _ rfl, finish_bare]
    | false =>
      simp only [Bool.false_eq_true, if_false]
      cases slot.moveTo .starting with
      | error e => rfl
      | ok next =>
        dsimp only
        rw [Scene.log_bare _ rfl, Scene.log_bare _ rfl, launch_bare]

theorem afterRun_bare (e : Ending RunResult) :
    t.afterRun s.bare e = (t.afterRun s e).map id Scene.bare := by
  unfold afterRun
  simp only [Scene.count_bare]
  rw [← Scene.bare_count s (.producerStopped t.slot.id)]
  generalize s.count (.producerStopped t.slot.id) = s₁
  cases e with
  | returned result =>
    cases result with
    | finished => exact t.finish_bare s₁
    | refused =>
      dsimp only
      rw [Scene.log_bare _ rfl, finish_bare]
  | crashed c => exact t.afterCrash_bare s₁ c

theorem step_bare : t.step s.bare = (t.step s).map id Scene.bare := by
  unfold step
  cases t.phase with
  | created => exact t.launch_bare s
  | supervising station =>
    dsimp only
    cases station.ending? with
    | none => rfl
    | some e => exact afterRun_bare _ s e
  | ended e => rfl

theorem stepRun_bare (who : Party) : t.stepRun who s.bare = (t.stepRun who s).map id Scene.bare := by
  unfold stepRun
  cases t.phase with
  | supervising station =>
    dsimp only
    rw [Station.step_bare]
    rfl
  | created | ended e => rfl

end Supervisor

/-- The report without its counts of what was forwarded. -/
def AggregatorReport.bare (r : AggregatorReport) : AggregatorReport := { received := r.received }

def AggregatorPhase.bare : AggregatorPhase → AggregatorPhase
  | .ended (.returned r) => .ended (.returned r.bare)
  | phase => phase

namespace Aggregator

/-- The aggregator as it would be without a publisher. -/
def bare (a : Aggregator) : Aggregator :=
  { a with forwards := false, phase := a.phase.bare, report := a.report.bare }

theorem isReady_bare (a : Aggregator) (s : Scene) : a.bare.isReady s.bare = a.isReady s := by
  unfold isReady bare
  cases a.phase with
  | ended e => cases e <;> rfl
  | created | waiting ticker parked => rfl

theorem ending?_bare (a : Aggregator) : a.bare.ending?.isSome = a.ending?.isSome := by
  unfold ending? bare
  cases a.phase with
  | ended e => cases e <;> rfl
  | created | waiting ticker parked => rfl

theorem alarms_bare (a : Aggregator) : a.bare.alarms = a.alarms := by
  unfold alarms bare
  cases a.phase with
  | ended e => cases e <;> rfl
  | created | waiting ticker parked => rfl

/-- What is forwarded is seen in the counts of it only. -/
theorem forward_bare (a : Aggregator) (s : Scene) (r : Reading) :
    (a.forward s r).1.bare = a.bare ∧ (a.forward s r).2.bare = s.bare := by
  have offered := s.bare_offer r
  unfold forward
  generalize s.offer .fanout r = answer at offered
  obtain ⟨answer, s₁⟩ := answer
  cases answer with
  | none => exact ⟨rfl, offered⟩
  | some e =>
    refine ⟨rfl, ?_⟩
    dsimp only
    rw [Scene.bare_log_of_isPublishing _ (by split <;> rfl), Scene.bare_count]
    exact offered

theorem receive_bare (a : Aggregator) (s : Scene) (r : Reading) :
    (a.bare.receive s.bare r).1 = (a.receive s r).1.bare ∧
      (a.bare.receive s.bare r).2.bare = (a.receive s r).2.bare := by
  have noted : s.bare.log (.readingReceived r.producer r.value) =
      ((s.count .readingReceived).log (.readingReceived r.producer r.value)).bare := by
    rw [← s.bare_count .readingReceived, Scene.log_bare _ rfl]
  unfold receive
  dsimp only [Scene.count_bare]
  rw [noted]
  generalize (s.count .readingReceived).log (.readingReceived r.producer r.value) = s₁
  by_cases on : a.forwards = true
  · obtain ⟨same, unseen⟩ := forward_bare
      { a with report := { a.report with received := a.report.received + 1 } } s₁ r
    rw [if_pos on]
    exact ⟨same.symm, s₁.bare_bare.trans unseen.symm⟩
  · rw [if_neg on]
    exact ⟨rfl, s₁.bare_bare⟩

theorem finish_bare (a : Aggregator) (s : Scene) :
    (a.bare.finish s.bare).1 = (a.finish s).1.bare ∧
      (a.bare.finish s.bare).2.bare = (a.finish s).2.bare := by
  refine ⟨?_, ?_⟩
  · unfold finish
    split <;> split <;> rfl
  · unfold finish
    dsimp only
    rw [Scene.bare_log_of_isPublishing _ rfl, Scene.bare_log_of_isPublishing _ rfl]
    cases a.forwards <;> exact s.bare_bare

theorem step_bare (a : Aggregator) (s : Scene) :
    (a.bare.step s.bare).1 = (a.step s).1.bare ∧
      (a.bare.step s.bare).2.bare = (a.step s).2.bare := by
  have logged {s₁ : Scene} {n : Notice} (h : n.isPublishing = false) :
      (s₁.bare.log n).bare = (s₁.log n).bare := by
    rw [Scene.log_bare _ h, Scene.bare_bare]
  cases hp : a.phase with
  | created =>
    have hb : a.bare.phase = .created := by simp [bare, hp, AggregatorPhase.bare]
    simp only [step, hp, hb, start]
    rw [show s.bare.now = s.now from rfl, show a.bare.summaryInterval = a.summaryInterval from rfl]
    cases Ticker.start? s.now a.summaryInterval with
    | error e => exact ⟨rfl, s.bare_bare⟩
    | ok ticker => exact ⟨rfl, logged rfl⟩
  | waiting ticker parked =>
    have hb : a.bare.phase = .waiting ticker parked := by simp [bare, hp, AggregatorPhase.bare]
    simp only [step, hp, hb]
    rw [show s.bare.cancelled = s.cancelled from rfl, show s.bare.now = s.now from rfl,
      show a.bare.draining = a.draining from rfl]
    cases s.cancelled && !a.draining with
    | true =>
      simp only [if_true]
      rw [← Scene.bare_abandonPrimary]
      exact ⟨rfl, logged rfl⟩
    | false =>
      cases ticker.isDue s.now with
      | true =>
        simp only [if_true, Bool.false_eq_true, if_false]
        rw [← Scene.bare_abandonPrimary]
        exact ⟨rfl, logged rfl⟩
      | false =>
        simp only [Bool.false_eq_true, if_false]
        rw [Scene.recv_bare]
        generalize s.recv .primary .aggregator parked = look
        obtain ⟨look, s₁⟩ := look
        cases look with
        | item r => exact receive_bare { a with phase := .waiting ticker false } s₁ r
        | ended => exact a.finish_bare s₁
        | waits => exact ⟨rfl, s₁.bare_bare⟩
  | ended e =>
    have hb : a.step s = (a, s) := by simp [step, hp]
    rw [hb]
    cases e <;> simp [step, bare, hp, AggregatorPhase.bare]

end Aggregator

namespace Publisher
variable (p : Publisher) (s : Scene)

theorem settle_bare (ticker : Ticker) (r : Reading) (outcome : PublishOutcome) :
    (p.settle s ticker r outcome).2.bare = s.bare := by
  have recorded : (s.record (.publishOver r outcome)).bare = s.bare :=
    Scene.bare_record_of_isPublishing _ rfl
  unfold settle
  cases outcome with
  | dropped | published => rw [Scene.bare_count, recorded]
  | failed e =>
    dsimp only
    rw [Scene.bare_log_of_isPublishing _ (by split <;> rfl), Scene.bare_count, recorded]

theorem conclude_bare (ticker : Ticker) (r : Reading) (started : Nat) (answer : Answer) :
    (p.conclude s ticker r started answer).2.bare = s.bare := by
  unfold conclude
  cases answer with
  | crashed c => rfl
  | accepted | failed e => rw [settle_bare, Scene.bare_count]

theorem publish_bare (ticker : Ticker) (r : Reading) :
    (p.publish s ticker r).2.bare = s.bare := by
  unfold publish
  split
  · exact p.settle_bare s ticker r .dropped
  · split
    · exact p.settle_bare s ticker r _
    · have recorded : (s.record (.publishBegun r)).bare = s.bare :=
        Scene.bare_record_of_isPublishing _ rfl
      generalize s.record (.publishBegun r) = s₁ at recorded
      dsimp only
      generalize s₁.broker.start s₁.now ⟨r.subject p.subjectRoot, r.payload⟩ = answer
      obtain ⟨answer, b⟩ := answer
      cases answer with
      | done a =>
        dsimp only
        rw [conclude_bare, Scene.bare_setBroker, recorded]
      | waiting pending => exact recorded

theorem stepWaiting_bare (h : p.stage = .fanout) (ticker : Ticker) (parked : Bool) :
    (p.stepWaiting s ticker parked).2.bare = s.bare := by
  have leaves (n : Notice) (hn : n.isPublishing = true) :
      ((s.abandonRecv .fanout .publisher parked).log n).bare = s.bare := by
    rw [Scene.bare_log_of_isPublishing _ hn, Scene.bare_abandonFanout]
  unfold stepWaiting
  rw [h]
  dsimp only
  split
  · exact leaves _ rfl
  · split
    · rfl
    · split
      · exact leaves _ rfl
      · split
        · rw [Scene.bare_log_of_isPublishing _ rfl, Scene.bare_count, Scene.bare_abandonFanout]
        · have looked := s.bare_recv .publisher parked
          generalize s.recv .fanout .publisher parked = look at looked
          obtain ⟨look, s₁⟩ := look
          cases look with
          | item r => rw [← looked]; exact p.publish_bare s₁ ticker r
          | ended =>
            dsimp only [finish]
            rw [Scene.bare_log_of_isPublishing _ rfl, Scene.bare_count]
            exact looked
          | waits => exact looked

theorem stepPublishing_bare (ticker : Ticker) (r : Reading) (pending : PendingPublish)
    (started : Nat) (timeout : Option Nat) :
    (p.stepPublishing s ticker r pending started timeout).2.bare = s.bare := by
  unfold stepPublishing
  split
  · rw [conclude_bare, Scene.bare_setBroker]
  · split
    · exact p.conclude_bare s ticker r started _
    · split
      · rfl
      · split
        · rw [settle_bare, Scene.bare_log_of_isPublishing _ rfl]
        · rfl

theorem step_bare (h : p.stage = .fanout) : (p.step s).2.bare = s.bare := by
  unfold step
  cases p.phase with
  | created =>
    dsimp only [start]
    cases Ticker.start? s.now p.statsInterval with
    | error e => rfl
    | ok ticker =>
      dsimp only
      rw [Scene.bare_count, Scene.bare_log_of_isPublishing _ rfl]
  | waiting ticker parked => exact p.stepWaiting_bare s h ticker parked
  | publishing ticker r pending started timeout => exact p.stepPublishing_bare s ticker r _ _ _
  | ended e => rfl

end Publisher
end SensorFleet
