import Mathlib.Data.List.Induction
import SensorFleet.Proofs.Fleet.Lifecycle
import SensorFleet.Proofs.Fleet.PublishAccounts

/-!
Brokers that are configured but not used. Without publishing, an execution goes the same way
whichever broker is there, and the broker is left as it was, but for the switches that are turned
from outside.
-/
namespace SensorFleet

namespace Scene

def withBroker (b : Broker) (s : Scene) : Scene := { s with broker := b }

section Operations
variable (b : Broker) (s : Scene)

theorem count_withBroker (o : Observation) :
    (s.withBroker b).count o = (s.count o).withBroker b := by
  rw [count_eq, count_eq]
  rfl

theorem queue_withBroker (stage : Stage) : (s.withBroker b).queue stage = s.queue stage := by
  cases stage <;> rfl

theorem close_withBroker (stage : Stage) :
    (s.withBroker b).close stage = (s.close stage).map id (withBroker b) := by
  cases stage <;> rfl

theorem abandonRecv_withBroker (stage : Stage) (who : Party) (parked : Bool) :
    (s.withBroker b).abandonRecv stage who parked =
      (s.abandonRecv stage who parked).withBroker b := by
  cases parked <;> cases stage <;> rfl

theorem afterSend_withBroker (stage : Stage) (r : Reading) (look : SendLook × ReadingQueue) :
    (s.withBroker b).afterSend stage r look = (s.afterSend stage r look).map id (withBroker b) := by
  obtain ⟨look, q⟩ := look
  cases look <;> cases stage <;> rfl

theorem recv_withBroker (stage : Stage) (who : Party) (parked : Bool) :
    (s.withBroker b).recv stage who parked = (s.recv stage who parked).map id (withBroker b) := by
  unfold recv
  dsimp only
  rw [queue_withBroker]
  generalize (if parked = true then (s.queue stage).rerecv who else (s.queue stage).recv who) = look
  obtain ⟨look, q⟩ := look
  cases look <;> cases stage <;> rfl

theorem offer_withBroker (stage : Stage) (r : Reading) :
    (s.withBroker b).offer stage r = (s.offer stage r).map id (withBroker b) := by
  unfold offer
  rw [queue_withBroker]
  generalize (s.queue stage).offer r = look
  obtain ⟨refusal, q⟩ := look
  cases refusal <;> cases stage <;> rfl

theorem logPath_withBroker (id : ProducerId) (source : SlotState) (path : List SlotState) :
    (s.withBroker b).logPath id source path = (s.logPath id source path).withBroker b := by
  induction path generalizing s source with
  | nil => rfl
  | cons target rest ih => exact ih (s.log (.slotMoved id source target)) target

end Operations
end Scene

namespace Station
variable (b : Broker) (t : Station) (s : Scene)

theorem afterSend_withBroker (ticker : Ticker) (r : Reading) (look : SendLook × Scene) :
    t.afterSend ticker r (look.map id (Scene.withBroker b)) =
      (t.afterSend ticker r look).map id (Scene.withBroker b) := by
  obtain ⟨look, s⟩ := look
  cases look with
  | accepted => exact congrArg (Prod.mk _) (s.count_withBroker b _)
  | refused | waits => rfl

theorem step_withBroker (who : Party) :
    t.step who (s.withBroker b) = (t.step who s).map id (Scene.withBroker b) := by
  unfold step
  cases t.run.phase with
  | created =>
    rw [show (s.withBroker b).now = s.now from rfl]
    cases Ticker.start? s.now t.run.interval <;> rfl
  | ticking ticker =>
    change (if s.cancelled then _ else _) = (if s.cancelled then _ else _ : Station × Scene).map _ _
    cases s.cancelled with
    | true => rfl
    | false =>
      have sampled : t.sample (s.withBroker b) = (t.sample s).map id (Scene.withBroker b) := by
        unfold sample
        dsimp only
        cases t.run.source t.run.drawn <;> rfl
      simp only [Bool.false_eq_true, if_false]
      rw [sampled]
      generalize t.sample s = drawn
      obtain ⟨made, s₁⟩ := drawn
      cases made with
      | error c => rfl
      | ok made =>
        obtain ⟨r, t₁⟩ := made
        refine Eq.trans ?_ (afterSend_withBroker b t₁ _ r (s₁.send .primary who r))
        exact congrArg (t₁.afterSend _ r) (s₁.afterSend_withBroker b .primary r _)
  | sending ticker r =>
    refine Eq.trans ?_ (afterSend_withBroker b t ticker r (s.resend .primary who r))
    exact congrArg (t.afterSend ticker r) (s.afterSend_withBroker b .primary r _)
  | ended e => rfl

end Station

namespace Supervisor
variable (b : Broker) (t : Supervisor) (s : Scene)

theorem finish_withBroker :
    t.finish (s.withBroker b) = (t.finish s).map id (Scene.withBroker b) := by
  unfold finish
  cases t.slot.stop with
  | error e => rfl
  | ok slot =>
    dsimp only
    rw [Scene.logPath_withBroker]
    rfl

theorem launch_withBroker :
    t.launch (s.withBroker b) = (t.launch s).map id (Scene.withBroker b) := by
  unfold launch
  change (if s.cancelled then _ else _) = (if s.cancelled then _ else _ : Supervisor × Scene).map _ _
  cases s.cancelled with
  | true => exact t.finish_withBroker b s
  | false =>
    have made : (s.withBroker b).makeSource t.slot.id =
        (s.makeSource t.slot.id).map (fun made => made) (Scene.withBroker b) := rfl
    simp only [Bool.false_eq_true, if_false]
    rw [made]
    generalize s.makeSource t.slot.id = making
    obtain ⟨creation, s₁⟩ := making
    cases creation with
    | crash c => rfl
    | source source =>
      cases t.slot.startRun with
      | error e => rfl
      | ok slot => exact congrArg (Prod.mk _) (Scene.count_withBroker b (s₁.log _) _)

theorem afterCrash_withBroker (c : Crash) :
    t.afterCrash (s.withBroker b) c = (t.afterCrash s c).map id (Scene.withBroker b) := by
  unfold afterCrash
  cases t.slot.recordFault c.message with
  | error e => rfl
  | ok slot =>
    have noted (n n' : Notice) (o : Observation) : (((s.withBroker b).log n).count o).log n' =
        (((s.log n).count o).log n').withBroker b :=
      congrArg (Scene.log · n') (Scene.count_withBroker b (s.log n) o)
    dsimp only
    rw [noted]
    generalize ((s.log (.slotMoved slot.id t.slot.state .faulted)).count
      (.producerRestarted slot.id)).log (.producerFaulted ⟨slot.id, slot.attempts, c.message⟩) = s₁
    change (if s₁.cancelled then _ else _) =
      (if s₁.cancelled then _ else _ : Supervisor × Scene).map _ _
    cases s₁.cancelled with
    | true => exact finish_withBroker b _ (s₁.log _)
    | false =>
      cases slot.moveTo .starting with
      | error e => rfl
      | ok next => exact launch_withBroker b _ ((s₁.log _).log _)

theorem step_withBroker : t.step (s.withBroker b) = (t.step s).map id (Scene.withBroker b) := by
  unfold step
  cases t.phase with
  | created => exact t.launch_withBroker b s
  | supervising station =>
    dsimp only
    cases station.ending? with
    | none => rfl
    | some e =>
      unfold afterRun
      dsimp only
      rw [Scene.count_withBroker]
      cases e with
      | returned result =>
        cases result with
        | finished => exact finish_withBroker b _ _
        | refused => exact finish_withBroker b _ ((s.count _).log _)
      | crashed c => exact afterCrash_withBroker b _ _ c
  | ended e => rfl

theorem stepRun_withBroker (who : Party) :
    t.stepRun who (s.withBroker b) = (t.stepRun who s).map id (Scene.withBroker b) := by
  unfold stepRun
  cases t.phase with
  | supervising station =>
    dsimp only
    rw [Station.step_withBroker]
    rfl
  | created | ended e => rfl

end Supervisor

namespace Aggregator
variable (b : Broker) (a : Aggregator) (s : Scene)

theorem receive_withBroker (r : Reading) :
    a.receive (s.withBroker b) r = (a.receive s r).map id (Scene.withBroker b) := by
  unfold receive
  dsimp only
  rw [Scene.count_withBroker]
  split
  · change forward _ (((s.count .readingReceived).log _).withBroker b) r = _
    unfold forward
    rw [Scene.offer_withBroker]
    generalize ((s.count .readingReceived).log _).offer .fanout r = look
    obtain ⟨refusal, s₁⟩ := look
    cases refusal with
    | none => rfl
    | some e =>
      have lost := s₁.count_withBroker b (.publishFailed r.producer "dropped")
      exact congrArg (fun s₂ : Scene => (_, s₂.log _)) lost
  · rfl

theorem finish_withBroker :
    a.finish (s.withBroker b) = (a.finish s).map id (Scene.withBroker b) := by
  unfold finish
  cases a.forwards <;> rfl

theorem step_withBroker : a.step (s.withBroker b) = (a.step s).map id (Scene.withBroker b) := by
  unfold step
  cases a.phase with
  | created =>
    unfold start
    rw [show (s.withBroker b).now = s.now from rfl]
    cases Ticker.start? s.now a.summaryInterval <;> rfl
  | waiting ticker parked =>
    dsimp only
    rw [Scene.abandonRecv_withBroker, Scene.recv_withBroker]
    change (if s.cancelled && !a.draining then _ else if ticker.isDue s.now then _ else _) =
      (if s.cancelled && !a.draining then _ else if ticker.isDue s.now then _ else _ :
        Aggregator × Scene).map _ _
    cases s.cancelled && !a.draining with
    | true => rfl
    | false =>
      cases ticker.isDue s.now with
      | true => rfl
      | false =>
        simp only [Bool.false_eq_true, if_false]
        generalize s.recv .primary .aggregator parked = look
        obtain ⟨look, s₁⟩ := look
        cases look with
        | item r => exact receive_withBroker b _ s₁ r
        | ended => exact finish_withBroker b a s₁
        | waits => rfl
  | ended e => rfl

end Aggregator

/-- The broker after the switches that are turned along a list of cues. -/
def Broker.turned (b : Broker) (cues : List Simulation.Cue) : Broker :=
  cues.foldl (fun b cue => match cue with
    | .outside (.turn s) => b.turn s
    | _ => b) b

theorem Broker.turned_append (b : Broker) (cues cues' : List Simulation.Cue) :
    b.turned (cues ++ cues') = (b.turned cues).turned cues' := List.foldl_append

namespace Simulation

def withBroker (b : Broker) (m : Simulation) : Simulation :=
  { m with scene := m.scene.withBroker b }

section Steps
variable (b : Broker) (m : Simulation)

theorem isReady_withBroker (absent : m.publisher = none) (e : SimulationEvent) :
    (m.withBroker b).isReady e = m.isReady e := by
  cases e with
  | shutdown cause => cases cause <;> rfl
  | publisher | watcher => simp [isReady, withBroker, absent]
  | coordinator | aggregator | supervisor i | run i | join i => rfl

theorem closeQueue_withBroker : (m.withBroker b).closeQueue = m.closeQueue.withBroker b := by
  unfold closeQueue
  dsimp only
  rw [show (m.withBroker b).scene = m.scene.withBroker b from rfl, Scene.close_withBroker]
  cases h : (m.scene.close .primary).1 <;> simp [h] <;> rfl

theorem join_withBroker (i : Nat) (t : Supervisor) :
    (m.withBroker b).join i t = (m.join i t).withBroker b := by
  unfold join
  dsimp only
  rw [show (m.withBroker b).coordinator = m.coordinator from rfl]
  generalize t.ending? = ending
  cases m.coordinator.phase with
  | _ =>
    cases ending with
    | none => rfl
    | some e =>
      cases e with
      | crashed c => rfl
      | returned result => cases result <;> rfl

theorem conclude_withBroker : (m.withBroker b).conclude = m.conclude.withBroker b := by
  unfold conclude
  rw [show (m.withBroker b).coordinator = m.coordinator from rfl]
  cases m.coordinator.failure with
  | some e => rfl
  | none =>
    change endWith { m.withBroker b with
      scene := (if 0 < m.scene.primary.late then _ else _ : Scene).log _ } _ =
        (endWith { m with
          scene := (if 0 < m.scene.primary.late then _ else _ : Scene).log _ } _).withBroker b
    by_cases late : 0 < m.scene.primary.late
    · rw [if_pos late, if_pos late]
      rfl
    · rw [if_neg late, if_neg late]
      rfl

theorem joinAggregator_withBroker (e : Ending AggregatorReport) :
    (m.withBroker b).joinAggregator e = (m.joinAggregator e).withBroker b := by
  have handed (m : Simulation) : (m.withBroker b).handOver = m.handOver.withBroker b := by
    unfold handOver
    rw [show (m.withBroker b).publisher = m.publisher from rfl]
    split
    · rfl
    · exact conclude_withBroker b m
  cases e with
  | returned n => exact handed { m with coordinator := { m.coordinator with aggregated := n } }
  | crashed c => exact handed ((m.log (.aggregatorTaskFailed c)).failTask c)

theorem stepCoordinator_withBroker (unjoined : m.coordinator.phase ≠ .awaitingPublisher) :
    (m.withBroker b).stepCoordinator = m.stepCoordinator.withBroker b := by
  unfold stepCoordinator
  rw [show (m.withBroker b).coordinator = m.coordinator from rfl,
    show (m.withBroker b).aggregator = m.aggregator from rfl]
  cases phase : m.coordinator.phase with
  | joining left => exact closeQueue_withBroker b m
  | awaitingAggregator =>
    dsimp only
    cases m.aggregator.ending? with
    | none => rfl
    | some e => exact joinAggregator_withBroker b m e
  | awaitingPublisher => exact absurd phase unjoined
  | running d i | ended r => rfl

theorem step_withBroker (absent : m.publisher = none)
    (unjoined : m.coordinator.phase ≠ .awaitingPublisher) (e : SimulationEvent) :
    (m.withBroker b).step e = (m.step e).withBroker b := by
  have supervisors (i : Nat) : (m.withBroker b).supervisors[i]? = m.supervisors[i]? := rfl
  cases e with
  | shutdown cause => rfl
  | coordinator => exact stepCoordinator_withBroker b m unjoined
  | publisher | watcher => simp [step, withBroker, absent]
  | aggregator =>
    have taken := m.aggregator.step_withBroker b m.scene
    exact congrArg (fun r : Aggregator × Scene =>
      ({ m with aggregator := r.1, scene := r.2 } : Simulation)) taken
  | supervisor i =>
    simp only [step, supervisors]
    cases m.supervisors[i]? with
    | none => rfl
    | some t =>
      exact congrArg (fun r : Supervisor × Scene =>
        ({ m with supervisors := m.supervisors.setIfInBounds i r.1, scene := r.2 } : Simulation))
        (t.step_withBroker b m.scene)
  | run i =>
    simp only [step, supervisors]
    cases m.supervisors[i]? with
    | none => rfl
    | some t =>
      exact congrArg (fun r : Supervisor × Scene =>
        ({ m with supervisors := m.supervisors.setIfInBounds i r.1, scene := r.2 } : Simulation))
        (t.stepRun_withBroker b m.scene (.slot i))
  | join i =>
    simp only [step, supervisors]
    cases m.supervisors[i]? with
    | none => rfl
    | some t => exact join_withBroker b m i t

/-- A cue leads to the same state with either broker, which only switches can change. -/
theorem next?_withBroker (absent : m.publisher = none)
    (unjoined : m.coordinator.phase ≠ .awaitingPublisher) (cue : Cue) :
    (m.withBroker b).next? cue = (m.next? cue).map (withBroker (b.turned [cue])) := by
  cases cue with
  | event e =>
    simp only [next?, isReady_withBroker b m absent, step_withBroker b m absent unjoined]
    cases m.isReady e <;> rfl
  | time t =>
    change (if m.scene.now ≤ t then some _ else none) = _
    simp only [next?]
    split <;> rfl
  | outside i => cases i <;> rfl

end Steps

theorem start_withBroker (c : Config) (p : Equipment) (b : Broker) :
    start c { p with broker := some b } = (start c p).map (withBroker b) := by
  unfold start
  cases ReadingQueue.ofCapacity c.capacity <;> rfl

theorem Reachable.unpublished {c : Config} {p : Equipment} {m : Simulation} (h : Reachable c p m)
    (off : c.publishes = false) :
    m.publisher = none ∧ m.coordinator.phase ≠ .awaitingPublisher := by
  have absent : m.publisher.isSome = false := h.accounted.present.trans off
  refine ⟨Option.isNone_iff_eq_none.mp (by simpa using absent), fun phase => ?_⟩
  simp [h.collected.awaits phase] at absent

/-- Without publishing, a broker is never used: whichever is there, the same cues lead to the same
state, in which it is as it was but for its switches. -/
theorem run_withBroker {c : Config} (off : c.publishes = false) (p : Equipment) (b : Broker)
    (cues : List Cue) :
    run? c { p with broker := some b } cues = (run? c p cues).map (withBroker (b.turned cues)) := by
  induction cues using List.reverseRecOn with
  | nil =>
    unfold run?
    rw [start_withBroker]
    cases start c p <;> rfl
  | append_singleton cues cue ih =>
    have last (p : Equipment) : run? c p (cues ++ [cue]) = (run? c p cues).bind (next? · cue) := by
      simp only [run?, follow_append, follow_one, Option.bind_assoc]
    rw [last, last, ih]
    cases prior : run? c p cues with
    | none => rfl
    | some m =>
      obtain ⟨absent, unjoined⟩ := (Reachable.of_run prior).unpublished off
      rw [Broker.turned_append]
      exact next?_withBroker (b.turned cues) m absent unjoined cue

end Simulation
end SensorFleet
