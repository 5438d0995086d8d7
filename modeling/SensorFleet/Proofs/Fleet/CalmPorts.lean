import SensorFleet.Proofs.Broker.Answers
import SensorFleet.Proofs.Fleet.Course
import SensorFleet.Proofs.Fleet.PublishAccounts
import SensorFleet.Proofs.Fleet.Publishing

/-!
Tasks for which no crash is in store. A task crashes when its ticker cannot be made, or when
something crashes that the simulation was given. If none of that does, every step of a task leaves
it sound while the ticker at its start fits.
-/
namespace SensorFleet

theorem Ticker.start?_of_fits {now period : Nat} (pos : 0 < period)
    (fits : now + period < Instant.limit) : start? now period = .ok ⟨now + period, period⟩ := by
  simp [start?, Instant.after?, fits, Nat.ne_of_gt pos]

/-! ## What never crashes -/

def Source.Calm (source : Source) : Prop := ∀ n, ∃ x, source n = .value x

def Creation.Calm (creation : Creation) : Prop := ∃ source, creation = .source source ∧ source.Calm

def Answer.Calm (a : Answer) : Prop := ∀ c, a ≠ .crashed c

def Remainder.Calm : Remainder → Prop
  | .deliver _ => True
  | .answer a => a.Calm

def BrokerKind.Calm : BrokerKind → Prop
  | .scripted calls _ => ∀ n, (calls n).answer.Calm
  | _ => True

/-- Nothing that a simulation is given ever crashes. -/
structure Equipment.Calm (p : Equipment) : Prop where
  sources : ∀ id nth total, (p.sources id nth total).Calm
  broker : ∀ b, p.broker = some b → b.kind.Calm

def Broker.Start.Calm : Start → Prop
  | .done a => a.Calm
  | .waiting pending => pending.remainder.Calm

theorem Scene.recv_broker (s : Scene) (stage : Stage) (who : Party) (parked : Bool) :
    (s.recv stage who parked).2.broker = s.broker := by
  unfold recv
  dsimp only
  generalize (if parked = true then (s.queue stage).rerecv who else (s.queue stage).recv who) = look
  obtain ⟨look, q⟩ := look
  cases look <;> cases stage <;> rfl

namespace Broker
variable {b : Broker}

theorem finish_calm {rest : Remainder} (h : rest.Calm) : (b.finish rest).1.Calm := by
  unfold finish
  split
  · exact h
  · split <;> exact nofun

theorem start_calm (h : b.kind.Calm) (now : Nat) (m : Message) : (b.start now m).1.Calm := by
  unfold start
  cases kind : b.kind with
  | scripted calls e =>
    rw [kind] at h
    dsimp only
    split <;> exact h b.started
  | recording | loopback =>
    dsimp only
    split
    · exact nofun
    · split
      · exact finish_calm (show Remainder.Calm (.deliver m) from trivial)
      · trivial

end Broker

/-! ## Tasks for which no crash is in store -/

namespace Station

theorem Acts.source {t t' : Station} {s s' : Scene} (h : t.Acts s t' s') :
    t'.run.source = t.run.source := by
  have sent {run : Run} {ticker : Ticker} {r : Reading} (hs : Sends run ticker r s t' s') :
      t'.run.source = run.source := by
    cases hs with
    | enters run' | waits run' => rw [run']; rfl
  cases h with
  | stalls _ _ _ run' | starts _ _ _ run' | stops _ _ _ run' | crashes _ _ _ _ _ run' =>
    rw [run']
    rfl
  | samples _ _ _ _ _ _ _ sends => exact (sent sends).trans rfl
  | retries _ _ _ sends => exact sent sends

/-- A run crashes for a ticker that cannot be made or a draw that crashes. -/
theorem Acts.intact {t t' : Station} {s s' : Scene} (h : t.Acts s t' s') {ticker : Ticker}
    (fits : Ticker.start? s.now t.run.interval = .ok ticker) (calm : t.run.source.Calm) (c : Crash) :
    t'.ending? ≠ some (.crashed c) := by
  have sent {run : Run} {ticker : Ticker} {r : Reading} (hs : Sends run ticker r s t' s') :
      t'.ending? ≠ some (.crashed c) := by
    cases hs with
    | enters run' | waits run' => simp [ending?, run', Run.enter]
  cases h with
  | stalls fault _ refused => simp [fits] at refused
  | starts _ _ _ run' => simp [ending?, run', Run.enter]
  | stops _ _ _ run' => simp [ending?, run', Run.endAt]
  | crashes _ c _ _ draw =>
    obtain ⟨x, value⟩ := calm t.run.drawn
    simp [value] at draw
  | samples _ _ _ _ _ _ _ sends => exact sent sends
  | retries _ _ _ sends => exact sent sends

end Station

namespace Supervisor

structure Sound (d : Nat) (t : Supervisor) : Prop where
  interval : t.interval = d
  faults : t.faults = []
  alive : ∀ c, t.phase ≠ .ended (.crashed c)
  run : ∀ station, t.phase = .supervising station →
    station.run.interval = d ∧ station.run.source.Calm
  report : ∀ r, t.report? = some r → r.restarts = 0 ∧ r.faults = []

variable {d : Nat} {t t' : Supervisor} {s s' : Scene}

theorem Sound.recorded (h : t.Sound d) : t.slot.faults = [] := by
  have none := h.faults
  unfold Supervisor.faults at none
  split at none
  · split at none
    · simp at none
    · exact none
  · exact none

theorem Sound.steps (h : t.Sound d) (calm : (t.nextSource s).Calm)
    (proceeds : t.Proceeds t.faults s t' s') : t'.Sound d := by
  have recorded : t'.slot.faults = [] := proceeds.faults.trans h.faults
  have same : t'.interval = d := proceeds.interval.trans h.interval
  cases proceeds.goes with
  | finishes isOver _ phase =>
    refine ⟨same, by simp [Supervisor.faults, phase, recorded], by simp [phase], by simp [phase], ?_⟩
    intro r hr
    simp only [report?, phase, Option.some.injEq] at hr
    rw [← hr, h.faults]
    exact ⟨rfl, rfl⟩
  | launches source going given makes phase =>
    obtain ⟨source', given', draws⟩ := calm
    rw [given, Creation.source.injEq] at given'
    refine ⟨same, by simp [Supervisor.faults, phase, recorded, Station.ending?, freshRun],
      by simp [phase], ?_, by simp [report?, phase]⟩
    intro station supervising
    rw [phase, SupervisorPhase.supervising.injEq] at supervising
    exact supervising ▸ ⟨h.interval, given' ▸ draws⟩
  | dies c going given =>
    obtain ⟨source, given', _⟩ := calm
    simp [given] at given'

theorem Sound.runs (h : t.Sound d) {station station' : Station}
    (phase : t.phase = .supervising station) (acts : station.Acts s station' s') {ticker : Ticker}
    (fits : Ticker.start? s.now d = .ok ticker) :
    Sound d { t with phase := .supervising station', sent := station'.sent } := by
  obtain ⟨kept, draws⟩ := h.run station phase
  have intact := acts.intact (kept ▸ fits) draws
  refine ⟨h.interval, (faults_of_uncrashed rfl intact).trans h.recorded, nofun, ?_, nofun⟩
  intro station₁ supervising
  cases supervising
  exact ⟨acts.interval.trans kept, acts.source ▸ draws⟩

end Supervisor

namespace Aggregator

structure Sound (d : Nat) (a : Aggregator) : Prop where
  interval : a.summaryInterval = d
  alive : ∀ c, a.ending? ≠ some (.crashed c)

theorem receive_interval (a : Aggregator) (s : Scene) (r : Reading) :
    (a.receive s r).1.summaryInterval = a.summaryInterval := by
  unfold receive
  dsimp only
  split
  · unfold forward
    split <;> rfl
  · rfl

theorem sound_of_waiting {d : Nat} {a : Aggregator} {ticker : Ticker} {parked : Bool}
    (interval : a.summaryInterval = d) (phase : a.phase = .waiting ticker parked) : a.Sound d :=
  ⟨interval, by simp [ending?, phase]⟩

theorem Sound.step {d : Nat} {a : Aggregator} {s : Scene} {ticker : Ticker} (h : a.Sound d)
    (fits : Ticker.start? s.now d = .ok ticker) : (a.step s).1.Sound d := by
  unfold Aggregator.step
  cases phase : a.phase with
  | created =>
    simp only [start, h.interval, fits]
    exact sound_of_waiting rfl rfl
  | waiting ticker parked =>
    dsimp only
    split
    · exact sound_of_waiting h.interval rfl
    · split
      · exact sound_of_waiting h.interval rfl
      · split
        · exact sound_of_waiting ((receive_interval _ _ _).trans h.interval) (receive_phase _ _ _)
        · exact ⟨h.interval, by simp [finish, ending?]⟩
        · exact sound_of_waiting h.interval rfl
  | ended e => exact h

end Aggregator

namespace Publisher

structure Sound (d : Nat) (q : Publisher) : Prop where
  interval : q.statsInterval = d
  intact : q.Intact
  flight : ∀ r pending, q.flight? = some (r, pending) → pending.remainder.Calm

variable {d : Nat} {q : Publisher} {s : Scene} {ticker : Ticker} {r : Reading}

theorem sound_of_waiting {parked : Bool} (interval : q.statsInterval = d)
    (phase : q.phase = .waiting ticker parked) : q.Sound d :=
  ⟨interval, by simp [Intact, ending?, phase], by simp [flight?, phase]⟩

theorem settle_sound (interval : q.statsInterval = d) (outcome : PublishOutcome) :
    (q.settle s ticker r outcome).1.Sound d := by
  cases outcome with
  | published | failed e | dropped => exact sound_of_waiting interval rfl

theorem conclude_sound (interval : q.statsInterval = d) {started : Nat} {a : Answer} (calm : a.Calm) :
    (q.conclude s ticker r started a).1.Sound d := by
  cases a with
  | crashed c => exact absurd rfl (calm c)
  | accepted | failed e => exact settle_sound interval _

theorem publish_sound (interval : q.statsInterval = d) (calm : s.broker.kind.Calm) :
    (q.publish s ticker r).1.Sound d := by
  unfold publish
  split
  · exact settle_sound interval _
  · split
    · exact settle_sound interval _
    · have started := Broker.start_calm calm s.now ⟨r.subject q.subjectRoot, r.payload⟩
      have asked : (s.record (.publishBegun r)).broker.start (s.record (.publishBegun r)).now
          ⟨r.subject q.subjectRoot, r.payload⟩ =
            s.broker.start s.now ⟨r.subject q.subjectRoot, r.payload⟩ := rfl
      dsimp only
      rw [asked]
      generalize s.broker.start s.now ⟨r.subject q.subjectRoot, r.payload⟩ = asked at started ⊢
      obtain ⟨start, b⟩ := asked
      cases start with
      | done a => exact conclude_sound interval started
      | waiting pending =>
        refine ⟨interval, nofun, ?_⟩
        rintro _ _ ⟨⟩
        exact started

theorem stepWaiting_sound {parked : Bool} (interval : q.statsInterval = d)
    (phase : q.phase = .waiting ticker parked) (calm : s.broker.kind.Calm) :
    (q.stepWaiting s ticker parked).1.Sound d := by
  unfold stepWaiting
  dsimp only
  split
  · exact sound_of_waiting interval rfl
  · split
    · exact sound_of_waiting interval phase
    · split
      · exact sound_of_waiting interval rfl
      · split
        · exact sound_of_waiting interval rfl
        · have broker := s.recv_broker q.stage .publisher parked
          split
          next r s₁ looked =>
            rw [looked] at broker
            exact publish_sound interval (broker ▸ calm)
          · exact ⟨interval, nofun, nofun⟩
          · exact sound_of_waiting interval rfl

theorem stepPublishing_sound {pending : PendingPublish} {started : Nat} {timeout : Option Nat}
    (h : q.Sound d) (phase : q.phase = .publishing ticker r pending started timeout) :
    (q.stepPublishing s ticker r pending started timeout).1.Sound d := by
  have calm := h.flight r pending (by simp [flight?, phase])
  unfold stepPublishing
  split
  · exact conclude_sound h.interval (Broker.finish_calm calm)
  · split
    · exact conclude_sound h.interval (by simp [Answer.Calm])
    · split
      · exact ⟨h.interval, h.intact, h.flight⟩
      · split
        · exact settle_sound (q := { q with abandoned := true }) h.interval _
        · exact h

theorem Sound.step (h : q.Sound d) (fits : Ticker.start? s.now d = .ok ticker)
    (calm : s.broker.kind.Calm) : (q.step s).1.Sound d := by
  unfold Publisher.step
  cases phase : q.phase with
  | created =>
    simp only [start, h.interval, fits]
    exact sound_of_waiting rfl rfl
  | waiting ticker parked => exact stepWaiting_sound h.interval phase calm
  | publishing ticker r pending started timeout => exact stepPublishing_sound h phase
  | ended e => exact h

theorem Speaks.kind {q' : Publisher} {s' : Scene} (h : q.Speaks s q' s') :
    s'.broker.kind = s.broker.kind := by
  have heard {r : Reading} {ds : List Dealing} {b : Broker} {a : Answer}
      (hears : q.Hears r s ds b q' s' a) : s'.broker = b := by
    cases hears with
    | outcome _ _ leaves | crash _ leaves => exact leaves.broker
  cases h with
  | rests leaves | declines _ _ _ _ leaves | givesUp _ _ _ _ _ leaves => rw [leaves.broker]
  | begins r pending b _ started leaves =>
    rw [leaves.broker, ← s.broker.start_kind s.now (r.message q.subjectRoot), started]
  | asks r a b _ started hears =>
    rw [heard hears, ← s.broker.start_kind s.now (r.message q.subjectRoot), started]
  | hears r pending a b _ finished hears =>
    rw [heard hears, ← s.broker.finish_kind pending.remainder, finished]

end Publisher

end SensorFleet
