import SensorFleet.Proofs.Fleet.Launches
import SensorFleet.Proofs.Metrics.Figures

/-!
What each task adds to the figures of a run. A slot has figures of its own, read off its supervisor,
and so has the aggregator; a step of either adds to the metrics what it adds to its own, and every
other step leaves the figures as they are.
-/
namespace SensorFleet

namespace Scene

structure SameFigures (s s' : Scene) : Prop where
  counts : s'.counts = s.counts
  figure : ∀ k, s'.metrics.figure k = s.metrics.figure k

namespace SameFigures
variable {s s' s'' : Scene}

theorem of_metrics (counts : s'.counts = s.counts) (metrics : s'.metrics = s.metrics) :
    s.SameFigures s' := ⟨counts, fun _ => by rw [metrics]⟩

theorem refl (s : Scene) : s.SameFigures s := .of_metrics rfl rfl

theorem trans (h : s.SameFigures s') (h' : s'.SameFigures s'') : s.SameFigures s'' :=
  ⟨h'.counts.trans h.counts, fun k => (h'.figure k).trans (h.figure k)⟩

theorem record (h : s.SameFigures s') (w : Happening) : s.SameFigures (s'.record w) :=
  h.trans (.of_metrics rfl rfl)

theorem log (h : s.SameFigures s') (n : Notice) : s.SameFigures (s'.log n) := h.record _

theorem count (h : s.SameFigures s') {o : Observation} (ho : ∀ k, o.adds k = 0) :
    s.SameFigures (s'.count o) := by
  refine h.trans ?_
  rw [count_eq]
  refine ⟨rfl, fun k => ?_⟩
  dsimp only
  split
  · rw [Metrics.figure_note, ho, Int.add_zero]
  · rfl

theorem setQueue (h : s.SameFigures s') (stage : Stage) (q : ReadingQueue) :
    s.SameFigures (s'.setQueue stage q) := by
  refine h.trans ?_
  cases stage <;> exact .of_metrics rfl rfl

theorem setBroker (h : s.SameFigures s') (b : Broker) : s.SameFigures { s' with broker := b } :=
  h.trans (.of_metrics rfl rfl)

theorem readClock (h : s.SameFigures s') : s.SameFigures s'.readClock.2 :=
  h.trans (.of_metrics rfl rfl)

theorem makeSource (h : s.SameFigures s') (id : ProducerId) :
    s.SameFigures (s'.makeSource id).2 := h.trans (.of_metrics rfl rfl)

theorem close (h : s.SameFigures s') (stage : Stage) : s.SameFigures (s'.close stage).2 :=
  h.setQueue stage _

theorem abandonRecv (h : s.SameFigures s') (stage : Stage) (who : Party) (parked : Bool) :
    s.SameFigures (s'.abandonRecv stage who parked) := by
  unfold Scene.abandonRecv
  split
  · exact h.setQueue stage _
  · exact h

theorem afterSend (h : s.SameFigures s') (stage : Stage) (r : Reading)
    (look : SendLook × ReadingQueue) : s.SameFigures (s'.afterSend stage r look).2 := by
  obtain ⟨look, q⟩ := look
  cases look with
  | accepted => exact (h.setQueue stage q).record _
  | refused | waits => exact h.setQueue stage q

theorem offer (h : s.SameFigures s') (stage : Stage) (r : Reading) :
    s.SameFigures (s'.offer stage r).2 := by
  unfold Scene.offer
  split
  · exact (h.setQueue stage _).record _
  · exact h.setQueue stage _

theorem recv (h : s.SameFigures s') (stage : Stage) (who : Party) (parked : Bool) :
    s.SameFigures (s'.recv stage who parked).2 := by
  have looked := s'.receives stage who parked
  generalize s'.recv stage who parked = look at looked
  cases looked with
  | item buffer => exact (h.setQueue stage _).record _
  | ended buffer closed | waits buffer opened => exact h.setQueue stage _

theorem logPath (h : s.SameFigures s') (id : ProducerId) (source : SlotState)
    (path : List SlotState) : s.SameFigures (s'.logPath id source path) := by
  induction path generalizing s' source with
  | nil => exact h
  | cons target rest ih => exact ih (h.log _) target

end SameFigures

structure Meters (s : Scene) (own : Figure → Nat) (s' : Scene) (own' : Figure → Nat) : Prop where
  counts : s'.counts = s.counts
  figures : s.counts = true → ∀ k, s'.metrics.figure k + own k = s.metrics.figure k + own' k

namespace Meters
variable {s s' s'' : Scene} {own own' own'' : Figure → Nat}

theorem refl (s : Scene) (own : Figure → Nat) : s.Meters own s own := ⟨rfl, fun _ _ => rfl⟩

theorem trans (h : s.Meters own s' own') (h' : s'.Meters own' s'' own'') :
    s.Meters own s'' own'' := by
  refine ⟨h'.counts.trans h.counts, fun on k => ?_⟩
  have first := h.figures on k
  have second := h'.figures (h.counts.trans on) k
  omega

theorem same (h : s.Meters own s' own') (later : s'.SameFigures s'') : s.Meters own s'' own' :=
  ⟨later.counts.trans h.counts, fun on k => by rw [later.figure, h.figures on k]⟩

theorem count (h : s.Meters own s' own') {o : Observation}
    (adds : ∀ k, own' k + o.adds k = own'' k) : s.Meters own (s'.count o) own'' := by
  refine h.trans ?_
  rw [count_eq]
  refine ⟨rfl, fun on k => ?_⟩
  dsimp only
  rw [if_pos on, Metrics.figure_note]
  have added := adds k
  omega

end Meters

theorem SameFigures.meters {s s' : Scene} (h : s.SameFigures s') (own : Figure → Nat) :
    s.Meters own s' own := (Meters.refl s own).same h

end Scene

namespace Slot

theorem startRun_faults {s s' : Slot} (h : s.startRun = .ok s') : s'.faults = s.faults := by
  simp only [startRun, bind, Except.bind] at h
  split at h
  · cases h
  next moved =>
    injection h with h
    rw [← h, moveTo_ok moved]

theorem recordFault_faults {s s' : Slot} {message : String} (h : s.recordFault message = .ok s') :
    s'.faults = s.faults ++ [⟨s.id, s.attempts, message⟩] := by
  simp only [recordFault, bind, Except.bind] at h
  split at h
  · cases h
  next moved =>
    injection h with h
    rw [← h, moveTo_ok moved]

end Slot

namespace Supervisor

/-- The figures of a slot of which `running` runs are under way. -/
def ledger (running : Nat) (slot : Slot) (sent : Nat) : Figure → Nat
  | .active => running
  | .received => 0
  | .sent id => if slot.id = id then sent else 0
  | .restarts id => if slot.id = id then slot.faults.length else 0
  | .sentInAll => sent
  | .restartsInAll => slot.faults.length

def isSupervising (t : Supervisor) : Bool :=
  match t.phase with
  | .supervising _ => true
  | _ => false

def figure (t : Supervisor) : Figure → Nat := ledger t.isSupervising.toNat t.slot t.sent

theorem ledger_congr {slot slot' : Slot} (id : slot'.id = slot.id)
    (faults : slot'.faults = slot.faults) (running sent : Nat) :
    ledger running slot' sent = ledger running slot sent := by
  funext k
  cases k <;> simp only [ledger, id, faults]

theorem ledger_started (slot : Slot) (sent : Nat) (k : Figure) :
    (ledger 0 slot sent k + (Observation.producerStarted slot.id).adds k : Int) =
      ledger 1 slot sent k := by
  cases k <;> simp [ledger, Observation.adds]

theorem ledger_stopped (slot : Slot) (sent : Nat) (k : Figure) :
    (ledger 1 slot sent k + (Observation.producerStopped slot.id).adds k : Int) =
      ledger 0 slot sent k := by
  cases k <;> simp [ledger, Observation.adds]

theorem ledger_sent (slot : Slot) (sent running : Nat) (k : Figure) :
    (ledger running slot sent k + (Observation.readingSent slot.id).adds k : Int) =
      ledger running slot (sent + 1) k := by
  cases k with
  | active | received | sentInAll | restartsInAll => simp [ledger, Observation.adds]
  | sent id | restarts id =>
    simp only [ledger, Observation.adds]
    split <;> simp

theorem ledger_faulted {slot slot' : Slot} {fault : ProducerFault} (same : slot'.id = slot.id)
    (faults : slot'.faults = slot.faults ++ [fault]) (running sent : Nat) (k : Figure) :
    (ledger running slot sent k + (Observation.producerRestarted slot'.id).adds k : Int) =
      ledger running slot' sent k := by
  cases k with
  | active | received | sentInAll | restartsInAll => simp [ledger, Observation.adds, faults]
  | sent id | restarts id =>
    simp only [ledger, Observation.adds, same, faults, List.length_append]
    split <;> simp

end Supervisor

theorem Station.sample_sameFigures (t : Station) (s : Scene) :
    s.SameFigures (t.sample s).2 := by
  have drawn := (Scene.SameFigures.refl s).record (.sampled t.run.id)
  unfold sample
  dsimp only
  cases t.run.source t.run.drawn with
  | crash c => exact drawn
  | value x => exact drawn.readClock

/-- A run adds what it sends to the figures of its slot. -/
theorem Station.step_meters {t : Station} {slot : Slot} (own : t.run.id = slot.id) (who : Party)
    (s : Scene) : s.Meters (Supervisor.ledger 1 slot t.sent) (t.step who s).2
      (Supervisor.ledger 1 slot (t.step who s).1.sent) := by
  have hs := Scene.SameFigures.refl s
  have hafter (t₁ : Station) {s₁ : Scene} (own : t₁.run.id = slot.id) (sent : t₁.sent = t.sent)
      (h : s.SameFigures s₁) (ticker : Ticker) (r : Reading) (look : SendLook × ReadingQueue) :
      s.Meters (Supervisor.ledger 1 slot t.sent)
        (t₁.afterSend ticker r (s₁.afterSend .primary r look)).2
        (Supervisor.ledger 1 slot (t₁.afterSend ticker r (s₁.afterSend .primary r look)).1.sent) := by
    rw [← sent]
    have hs := h.afterSend .primary r look
    generalize s₁.afterSend .primary r look = looked at hs
    obtain ⟨look, s₂⟩ := looked
    cases look with
    | accepted =>
      refine (hs.meters _).count fun k => ?_
      rw [own]
      exact Supervisor.ledger_sent slot t₁.sent 1 k
    | refused | waits => exact hs.meters _
  unfold step
  split
  · split
    · exact hs.meters _
    · exact (hs.log _).meters _
  · split
    · exact (hs.log _).meters _
    · have drawn := t.sample_sameFigures s
      cases hr : t.sample s with
      | mk made s₁ =>
        rw [hr] at drawn
        cases made with
        | error c => exact drawn.meters _
        | ok made =>
          obtain ⟨_, id, sent⟩ := sample_ok (congrArg Prod.fst hr)
          exact hafter made.2 (id.trans own) sent drawn _ _ _
  · exact hafter t own rfl hs _ _ _
  · exact hs.meters _

namespace Supervisor

theorem stepRun_meters {t : Supervisor} (proper : t.Proper) {station : Station}
    (phase : t.phase = .supervising station) (who : Party) (s : Scene) :
    s.Meters t.figure (t.stepRun who s).2 (t.stepRun who s).1.figure := by
  obtain ⟨own, sent, _⟩ := proper.station station phase
  have meters := Station.step_meters own who s
  rw [sent] at meters
  rw [stepRun_eq phase]
  simpa only [figure, isSupervising, phase, Bool.toNat_true] using meters

def rest (t : Supervisor) : Figure → Nat := ledger 0 t.slot t.sent

theorem endWith_meters (t : Supervisor) (s : Scene)
    (e : Ending (Except SlotError SlotReport)) :
    s.Meters t.rest (t.endWith s e).2 (t.endWith s e).1.figure := .refl s t.rest

theorem finish_meters (t : Supervisor) (s : Scene) :
    s.Meters t.rest (t.finish s).2 (t.finish s).1.figure := by
  unfold finish
  rw [Slot.stop_eq]
  exact ((Scene.SameFigures.refl s).logPath _ _ _).meters t.rest

theorem launch_meters (t : Supervisor) (s : Scene) :
    s.Meters t.rest (t.launch s).2 (t.launch s).1.figure := by
  unfold launch
  split
  · exact t.finish_meters s
  · have made := (Scene.SameFigures.refl s).makeSource t.slot.id
    generalize s.makeSource t.slot.id = creation at made
    obtain ⟨creation, s₁⟩ := creation
    cases creation with
    | crash c => exact made.meters t.rest
    | source source =>
      dsimp only
      cases started : t.slot.startRun with
      | error e => exact made.meters t.rest
      | ok slot =>
        have kept : ledger 0 slot t.sent = t.rest :=
          ledger_congr (Slot.startRun_id started) (Slot.startRun_faults started) 0 t.sent
        refine ((made.log _).meters t.rest).count fun k => ?_
        rw [← kept]
        exact ledger_started slot t.sent k

theorem afterCrash_meters (t : Supervisor) (s : Scene) (c : Crash) :
    s.Meters t.rest (t.afterCrash s c).2 (t.afterCrash s c).1.figure := by
  unfold afterCrash
  cases recorded : t.slot.recordFault c.message with
  | error e => exact t.endWith_meters s _
  | ok slot =>
    have hs := (Scene.SameFigures.refl s).log (.slotMoved slot.id t.slot.state .faulted)
    have counted := (hs.meters t.rest).count (o := .producerRestarted slot.id)
      (ledger_faulted (Slot.recordFault_id recorded) (Slot.recordFault_faults recorded) 0 t.sent)
    have told := counted.same ((Scene.SameFigures.refl _).log
      (.producerFaulted ⟨slot.id, slot.attempts, c.message⟩))
    dsimp only
    split
    · exact (told.same ((Scene.SameFigures.refl _).log _)).trans
        (finish_meters { t with slot := slot } _)
    · cases moved : slot.moveTo .starting with
      | error e => exact told
      | ok next =>
        obtain rfl := Slot.moveTo_ok moved
        dsimp only
        exact (told.same (((Scene.SameFigures.refl _).log _).log _)).trans
          (launch_meters { t with slot := { slot with state := .starting } } _)

theorem afterRun_meters (t : Supervisor) (s : Scene) (e : Ending RunResult) :
    s.Meters (ledger 1 t.slot t.sent) (t.afterRun s e).2 (t.afterRun s e).1.figure := by
  have stopped : s.Meters (ledger 1 t.slot t.sent) (s.count (.producerStopped t.slot.id)) t.rest :=
    (Scene.Meters.refl s _).count (ledger_stopped t.slot t.sent)
  unfold afterRun
  cases e with
  | returned result =>
    cases result with
    | finished => exact stopped.trans (t.finish_meters _)
    | refused => exact (stopped.same ((Scene.SameFigures.refl _).log _)).trans (t.finish_meters _)
  | crashed c => exact stopped.trans (t.afterCrash_meters _ c)

theorem step_meters {t : Supervisor} (proper : t.Proper) (s : Scene) (ready : t.isReady = true) :
    s.Meters t.figure (t.step s).2 (t.step s).1.figure := by
  unfold isReady at ready
  cases phase : t.phase with
  | created =>
    have step : t.step s = t.launch s := by simp [Supervisor.step, phase]
    have idle : t.figure = t.rest := by simp [figure, isSupervising, phase, rest]
    rw [step, idle]
    exact t.launch_meters s
  | supervising station =>
    simp only [phase] at ready
    obtain ⟨e, ending⟩ := Option.isSome_iff_exists.mp ready
    have busy : t.figure = ledger 1 t.slot t.sent := by simp [figure, isSupervising, phase]
    rw [step_of_ended proper phase ending, busy]
    exact t.afterRun_meters s e
  | ended e => simp [phase] at ready

end Supervisor

namespace Aggregator

def figure (a : Aggregator) : Figure → Nat
  | .received => a.report.received
  | _ => 0

theorem figure_congr {a a' : Aggregator} (received : a'.report.received = a.report.received) :
    a'.figure = a.figure := by
  funext k
  cases k <;> first | exact received | rfl

theorem forward_sameFigures {s s₁ : Scene} (h : s.SameFigures s₁) (a : Aggregator) (r : Reading) :
    s.SameFigures (a.forward s₁ r).2 ∧ (a.forward s₁ r).1.figure = a.figure := by
  have hs := h.offer .fanout r
  unfold forward
  generalize s₁.offer .fanout r = look at hs
  obtain ⟨refusal, s₂⟩ := look
  cases refusal with
  | none => exact ⟨hs, figure_congr rfl⟩
  | some e => exact ⟨(hs.count fun _ => rfl).log _, figure_congr rfl⟩

theorem receive_meters {s s₁ : Scene} (h : s.SameFigures s₁) (a : Aggregator) (r : Reading) :
    s.Meters a.figure (a.receive s₁ r).2 (a.receive s₁ r).1.figure := by
  have received : s.Meters a.figure (s₁.count .readingReceived)
      { a with report := { a.report with received := a.report.received + 1 } : Aggregator }.figure :=
    (h.meters a.figure).count fun k => by cases k <;> simp [figure, Observation.adds]
  have told := received.same
    ((Scene.SameFigures.refl _).log (.readingReceived r.producer r.value))
  unfold receive
  dsimp only
  split
  · obtain ⟨same, own⟩ := forward_sameFigures (Scene.SameFigures.refl _)
      { a with report := { a.report with received := a.report.received + 1 } } r
    rw [own]
    exact told.same same
  · exact told

theorem finish_sameFigures {s s₁ : Scene} (h : s.SameFigures s₁) (a : Aggregator) :
    s.SameFigures (a.finish s₁).2 := by
  unfold finish
  dsimp only
  split
  · exact (h.close .fanout).log _
  · exact h.log _

theorem step_meters (a : Aggregator) (s : Scene) :
    s.Meters a.figure (a.step s).2 (a.step s).1.figure := by
  have hs := Scene.SameFigures.refl s
  unfold step
  split
  · unfold start
    split
    · exact hs.meters a.figure
    · exact (hs.log _).meters a.figure
  next ticker parked _ =>
    dsimp only
    split
    · exact ((hs.abandonRecv _ _ _).log _).meters a.figure
    · split
      · exact ((hs.abandonRecv _ _ _).log _).meters a.figure
      · have looked := hs.recv .primary .aggregator parked
        generalize s.recv .primary .aggregator parked = look at looked
        obtain ⟨look, s₁⟩ := look
        cases look with
        | item r => exact receive_meters looked { a with phase := .waiting ticker false } r
        | ended => exact (finish_sameFigures looked a).meters a.figure
        | waits => exact looked.meters a.figure
  · exact hs.meters a.figure

end Aggregator

namespace Publisher

theorem settle_sameFigures {s s₁ : Scene} (h : s.SameFigures s₁) (p : Publisher) (ticker : Ticker)
    (r : Reading) (outcome : PublishOutcome) :
    s.SameFigures (p.settle s₁ ticker r outcome).2 := by
  have hs : s.SameFigures (s₁.record (.publishOver r outcome)) := h.record _
  cases outcome with
  | published | dropped => exact hs.count fun _ => rfl
  | failed e => exact (hs.count fun _ => rfl).log _

theorem conclude_sameFigures {s s₁ : Scene} (h : s.SameFigures s₁) (p : Publisher)
    (ticker : Ticker) (r : Reading) (started : Nat) (answer : Answer) :
    s.SameFigures (p.conclude s₁ ticker r started answer).2 := by
  cases answer with
  | crashed c => exact h
  | accepted | failed e => exact settle_sameFigures (h.count fun _ => rfl) _ _ _ _

theorem publish_sameFigures {s s₁ : Scene} (h : s.SameFigures s₁) (p : Publisher)
    (ticker : Ticker) (r : Reading) : s.SameFigures (p.publish s₁ ticker r).2 := by
  unfold publish
  split
  · exact settle_sameFigures h _ _ _ _
  · split
    · exact settle_sameFigures h _ _ _ _
    · have begun : s.SameFigures (s₁.record (.publishBegun r)) := h.record _
      dsimp only
      split
      · exact conclude_sameFigures (begun.setBroker _) _ _ _ _ _
      · exact begun.setBroker _

theorem step_sameFigures (p : Publisher) (s : Scene) : s.SameFigures (p.step s).2 := by
  have hs := Scene.SameFigures.refl s
  unfold step
  split
  · unfold start
    split
    · exact hs
    · exact (hs.log _).count fun _ => rfl
  next ticker parked _ =>
    have leave := hs.abandonRecv p.stage .publisher parked
    unfold stepWaiting
    dsimp only
    split
    · exact leave.log _
    · split
      · exact hs
      · split
        · exact leave.log _
        · split
          · exact (leave.count fun _ => rfl).log _
          · have looked := hs.recv p.stage .publisher parked
            generalize s.recv p.stage .publisher parked = look at looked
            obtain ⟨look, s₁⟩ := look
            cases look with
            | item r => exact publish_sameFigures looked p ticker r
            | ended => exact (looked.count fun _ => rfl).log _
            | waits => exact looked
  · unfold stepPublishing
    dsimp only
    split
    · exact conclude_sameFigures (hs.setBroker _) _ _ _ _ _
    · split
      · exact conclude_sameFigures hs _ _ _ _ _
      · split
        · exact hs
        · split
          · exact settle_sameFigures (hs.log _) _ _ _ _
          · exact hs
  · exact hs

end Publisher
end SensorFleet
