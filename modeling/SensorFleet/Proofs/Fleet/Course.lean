import SensorFleet.Proofs.Fleet.Ticks

/-!
The course of one slot by itself. At each tick the slot draws once from its current source: a value
gives a reading with the time that the clock shows then, a crash gives a fault and the next source.
In a simulation, the slot of a producer keeps to this course from tick to tick, whatever the others
do, until the run is cancelled; then it ends between two ticks and reports what has become of it.
-/
namespace SensorFleet

/-- What has become of a slot: its current source and the draws from it, its readings and faults. -/
structure Course where
  source : Nat := 0
  drawn : Nat := 0
  readings : List Reading := []
  faults : List ProducerFault := []

/-- What decides the course of a slot: its sources, one after the other, what the clock shows at an
instant, and how far apart the ticks are. -/
structure Plan where
  id : ProducerId
  draws : Nat → Source
  shown : Nat → WallTime
  period : Nat

namespace Plan

def draw (p : Plan) (instant : Nat) (co : Course) : Course :=
  match p.draws co.source co.drawn with
  | .value x =>
    { co with drawn := co.drawn + 1, readings := co.readings ++ [⟨p.id, x, p.shown instant⟩] }
  | .crash c =>
    { co with
      source := co.source + 1, drawn := 0
      faults := co.faults ++ [⟨p.id, co.source + 1, c.message⟩] }

theorem draw_value {p : Plan} {co : Course} {x : Binary64} (h : p.draws co.source co.drawn = .value x)
    (instant : Nat) : p.draw instant co =
      { co with
        drawn := co.drawn + 1
        readings := co.readings ++ [⟨p.id, x, p.shown instant⟩] } := by
  simp only [draw, h]

theorem draw_crash {p : Plan} {co : Course} {c : Crash} (h : p.draws co.source co.drawn = .crash c)
    (instant : Nat) : p.draw instant co =
      { co with
        source := co.source + 1
        drawn := 0
        faults := co.faults ++ [⟨p.id, co.source + 1, c.message⟩] } := by
  simp only [draw, h]

/-- The course after the first ticks. -/
def course (p : Plan) : Nat → Course
  | 0 => {}
  | k + 1 => p.draw ((k + 1) * p.period) (p.course k)

/-- What the slot reports after the first ticks. -/
def report (p : Plan) (k : Nat) : SlotReport :=
  let co := p.course k
  ⟨p.id, .stopped, co.readings.length, co.faults.length, co.faults⟩

/-- The ticks are whole milliseconds apart, and the clock does not go back. -/
structure Steady (p : Plan) : Prop where
  pos : 0 < p.period
  whole : 1000000 ∣ p.period
  forward : ∀ t t', t ≤ t' → (p.shown t').isBefore (p.shown t) = false

structure Fits (p : Plan) (s : Scene) : Prop where
  sources : ∀ nth total, s.sources p.id nth total = .source (p.draws nth)
  clock : ∀ look now, s.clock look now = p.shown now

structure Draws (p : Plan) (k : Nat) (t : Supervisor) (run : Run) : Prop where
  attempts : t.slot.attempts = (p.course k).source + 1
  interval : run.interval = p.period
  source : run.source = p.draws (p.course k).source
  drawn : run.drawn = (p.course k).drawn
  last : ∀ last, run.last = some last → (p.shown (k * p.period)).isBefore last = false

/-- The phases of a run between two ticks. It is not in all of them while time passes. -/
inductive Beats (p : Plan) (k : Nat) (now : Nat) : RunPhase → Prop
  | created (instant : now = k * p.period) : Beats p k now .created
  | ticking (past : k * p.period ≤ now) (ahead : now ≤ (k + 1) * p.period) :
      Beats p k now (.ticking ⟨(k + 1) * p.period, p.period⟩)
  | sending (instant : now = k * p.period) (r : Reading) :
      Beats p k now (.sending ⟨(k + 1) * p.period, p.period⟩ r)

structure Between (t : Supervisor) : Prop where
  ready : t.isReady = true
  unreturned : ∀ station r, t.phase = .supervising station →
    station.ending? ≠ some (.returned r)

/-- Where a slot stands after its last tick. -/
inductive Stands (p : Plan) (k : Nat) (t : Supervisor) (now : Nat) : Prop
  | between (between : Between t) (instant : now = k * p.period)
      (attempts : t.slot.attempts = (p.course k).source) (drawn : (p.course k).drawn = 0)
  | under (station : Station) (phase : t.phase = .supervising station)
      (draws : p.Draws k t station.run) (beats : p.Beats k now station.run.phase)

structure Keeps (p : Plan) (k : Nat) (t : Supervisor) (s : Scene) : Prop where
  stands : p.Stands k t s.now
  readings : s.sentBy p.id ++ t.pending?.toList = (p.course k).readings
  faults : t.faults = (p.course k).faults

/-- One run after the other crashes at once, since the instant of its first tick cannot be
represented. Time does not pass any more, and stands at a tick. -/
structure Spins (p : Plan) (t : Supervisor) (now : Nat) : Prop where
  tick : p.period ∣ now
  never : Instant.after? now p.period = none
  place : Between t ∨ ∃ station, t.phase = .supervising station ∧ station.run.phase = .created ∧
    station.run.interval = p.period

structure Follows (p : Plan) (t : Supervisor) (s : Scene) : Prop where
  own : t.slot.id = p.id
  interval : t.interval = p.period
  attempts : s.created.getD p.id 0 = t.slot.attempts
  course : (∃ k, p.Keeps k t s) ∨ p.Spins t s.now

structure Closes (p : Plan) (k : Nat) (t : Supervisor) (s : Scene) : Prop where
  own : t.slot.id = p.id
  readings : s.sentBy p.id = (p.course k).readings
  faults : t.faults = (p.course k).faults
  place : (∃ station, t.phase = .supervising station ∧
      ((∃ ticker, station.run.phase = .ticking ticker) ∨
        station.run.phase = .ended (.returned .finished))) ∨
    ∃ sent, t.phase = .ended (.returned (.ok
      ⟨p.id, .stopped, sent, (p.course k).faults.length, (p.course k).faults⟩))

end Plan

namespace Supervisor
variable {t : Supervisor} {station : Station}

theorem faults_of_uncrashed (phase : t.phase = .supervising station)
    (uncrashed : ∀ c, station.ending? ≠ some (.crashed c)) : t.faults = t.slot.faults := by
  unfold faults
  rw [phase]
  dsimp only
  split
  next c crashed => exact absurd crashed (uncrashed c)
  next => rfl

theorem faults_of_crashed (phase : t.phase = .supervising station) {c : Crash}
    (crashed : station.ending? = some (.crashed c)) :
    t.faults = t.slot.faults ++ [⟨t.slot.id, t.slot.attempts, c.message⟩] := by
  simp only [faults, phase, crashed]

end Supervisor

namespace Plan
variable {p : Plan} {k : Nat} {t t' : Supervisor} {s s' : Scene} {station station' : Station}

theorem Between.not_under (h : Between t) (phase : t.phase = .supervising station)
    (live : station.ending? = none) : False := by
  have ready := h.ready
  simp [Supervisor.isReady, phase, live] at ready

theorem Beats.live {now : Nat} (h : p.Beats k now station.run.phase) :
    station.ending? = none := by
  unfold Station.ending?
  generalize station.run.phase = phase at h
  cases h <;> rfl

theorem Stands.live {now : Nat} (h : p.Stands k t now) : t.hasEnded = false := by
  cases h with
  | between between => exact Supervisor.not_hasEnded_of_isReady between.ready
  | under station phase => exact Supervisor.not_hasEnded_of_supervising phase

theorem Spins.live {now : Nat} (h : p.Spins t now) : t.hasEnded = false := by
  rcases h.place with between | ⟨station, phase, _⟩
  · exact Supervisor.not_hasEnded_of_isReady between.ready
  · exact Supervisor.not_hasEnded_of_supervising phase

theorem Follows.live (h : p.Follows t s) : t.hasEnded = false := by
  rcases h.course with ⟨k, keeps⟩ | spins
  · exact keeps.stands.live
  · exact spins.live

/-- A supervisor that goes on was about to start a run. -/
theorem Follows.between (h : p.Follows t s) (ready : t.isReady = true) : Between t := by
  have under {station : Station} (phase : t.phase = .supervising station)
      (live : station.ending? = none) : Between t := by
    simp [Supervisor.isReady, phase, live] at ready
  rcases h.course with ⟨k, keeps⟩ | spins
  · cases keeps.stands with
    | between between => exact between
    | under station phase draws beats => exact under phase beats.live
  · rcases spins.place with between | ⟨station, phase, created, _⟩
    · exact between
    · exact under phase (by simp [Station.ending?, created])

/-- What happens besides leaves a slot on its course. -/
theorem Follows.beside (h : p.Follows t s) (beside : s.Beside p.id s') : p.Follows t s' := by
  refine ⟨h.own, h.interval, beside.created.trans h.attempts, ?_⟩
  rw [beside.now]
  refine h.course.imp (fun ⟨k, keeps⟩ => ⟨k, ?_, ?_, keeps.faults⟩) fun spins => spins
  · rw [beside.now]
    exact keeps.stands
  · rw [beside.sentBy]
    exact keeps.readings

/-- The next run is started with the next source. -/
theorem Follows.steps (h : p.Follows t s) (fits : p.Fits s) (going : s.cancelled = false)
    (ready : t.isReady = true) (proceeds : t.Proceeds t.faults s t' s') (alike : s.Alike s')
    (own' : t'.slot.id = p.id) : p.Follows t' s' := by
  have between := h.between ready
  have given (creation : Creation) (hc : t.nextSource s = creation) :
      creation = .source (p.draws t.slot.attempts) := by
    rw [← hc, Supervisor.nextSource, h.own, fits.sources, h.attempts]
  cases proceeds.goes with
  | finishes ended same phase' =>
    rcases ended with cancelled | ⟨station, r, phase, returned⟩
    · simp [going] at cancelled
    · exact absurd returned (between.unreturned station r phase)
  | dies c _ next => cases given _ next
  | launches source _ next makes phase' attempts' =>
    injection given _ next with source_eq
    have created : s'.created.getD p.id 0 = t'.slot.attempts := by
      rw [makes.created, h.own, Std.ExtTreeMap.getD_insert_self, h.attempts, attempts']
    refine ⟨own', proceeds.interval.trans h.interval, created, ?_⟩
    have fresh : (⟨t.freshRun source, t.sent⟩ : Station).ending? = none := rfl
    have faults' : t'.faults = t.faults := by
      rw [Supervisor.faults_of_uncrashed phase' (by simp [fresh]), proceeds.faults]
    rcases h.course with ⟨k, keeps⟩ | spins
    · refine .inl ⟨k, ?_, ?_, faults'.trans keeps.faults⟩
      · cases keeps.stands with
        | under station phase draws beats => exact (between.not_under phase beats.live).elim
        | between _ instant attempts drawn =>
          refine .under _ phase' ⟨by rw [attempts', attempts], h.interval, ?_, drawn.symm, by simp [Supervisor.freshRun]⟩
            (.created (makes.now.trans instant))
          change source = _
          rw [source_eq, attempts]
      · have readings := keeps.readings
        rw [Supervisor.pending_of_ready ready] at readings
        rw [Scene.sentBy_congr (alike.entered .primary), ← readings]
        simp [Supervisor.pending?, phase', Station.pending?, Supervisor.freshRun]
    · refine .inr ⟨?_, ?_, .inr ⟨_, phase', rfl, h.interval⟩⟩
      · rw [makes.now]
        exact spins.tick
      · rw [makes.now]
        exact spins.never

/-- A run that has crashed leaves its supervisor about to start the next one. -/
theorem Between.of_crashed (phase : t.phase = .supervising station) {c : Crash}
    (crashed : station.ending? = some (.crashed c)) : Between t where
  ready := by simp [Supervisor.isReady, phase, crashed]
  unreturned := by
    intro station₁ r phase₁
    rw [phase, SupervisorPhase.supervising.injEq] at phase₁
    simp [← phase₁, crashed]

theorem Draws.enter {run : Run} (h : p.Draws k t run) (phase : RunPhase) :
    p.Draws k t (run.enter phase) := ⟨h.attempts, h.interval, h.source, h.drawn, h.last⟩

theorem Keeps.of_ticking {run : Run} (draws : p.Draws k t run)
    (phase : t.phase = .supervising station)
    (same : station.run = run.enter (.ticking ⟨(k + 1) * p.period, p.period⟩))
    (now : s.now = k * p.period) (readings : s.sentBy p.id = (p.course k).readings)
    (faults : t.slot.faults = (p.course k).faults) : p.Keeps k t s := by
  have ahead : s.now ≤ (k + 1) * p.period := now ▸ Nat.mul_le_mul_right _ (Nat.le_succ k)
  refine ⟨.under station phase (same ▸ draws.enter _) ?_, ?_, ?_⟩
  · rw [same]
    exact .ticking (Nat.le_of_eq now.symm) ahead
  · simp [Supervisor.pending?, phase, Station.pending?, same, Run.enter, readings]
  · rw [Supervisor.faults_of_uncrashed phase (by simp [Station.ending?, same, Run.enter]), faults]

/-- A reading of the slot enters the primary queue, or waits for room. -/
theorem Keeps.of_sends {run : Run} {r : Reading}
    (sends : Station.Sends run ⟨(k + 1) * p.period, p.period⟩ r s station' s')
    (draws : p.Draws k t' run) (phase' : t'.phase = .supervising station')
    (now : s'.now = k * p.period) (own : r.producer = p.id)
    (readings : s.sentBy p.id ++ [r] = (p.course k).readings)
    (faults : t'.slot.faults = (p.course k).faults) : p.Keeps k t' s' := by
  cases sends with
  | enters run' entered =>
    refine Keeps.of_ticking draws phase' run' now ?_ faults
    rw [Scene.sentBy_own entered (by simpa using own), readings]
  | waits run' entered =>
    refine ⟨.under station' phase' (run' ▸ draws.enter _) ?_, ?_, ?_⟩
    · rw [run']
      exact .sending now r
    · rw [Scene.sentBy_congr entered, ← readings]
      simp [Supervisor.pending?, phase', Station.pending?, run', Run.enter]
    · rw [Supervisor.faults_of_uncrashed phase' (by simp [Station.ending?, run', Run.enter]),
        faults]

theorem Draws.stamped {run : Run} (h : p.Draws k t run) (steady : p.Steady) (own : run.id = p.id)
    {now : Nat} (later : k * p.period ≤ now) (x : Binary64) :
    run.stamped x (p.shown now) = ⟨p.id, x, p.shown now⟩ := by
  unfold Run.stamped
  rw [own]
  cases remembered : run.last with
  | none => rfl
  | some last =>
    have forward := WallTime.isBefore_trans (h.last last remembered) (steady.forward _ _ later)
    simp [WallTime.latest, forward]

theorem Draws.next_value {run : Run} {x : Binary64} (h : p.Draws k t run)
    (draw : run.source run.drawn = .value x) :
    p.course (k + 1) = { p.course k with
      drawn := (p.course k).drawn + 1
      readings := (p.course k).readings ++ [⟨p.id, x, p.shown ((k + 1) * p.period)⟩] } := by
  rw [h.source, h.drawn] at draw
  exact draw_value draw _

theorem Draws.next_crash {run : Run} {c : Crash} (h : p.Draws k t run)
    (draw : run.source run.drawn = .crash c) :
    p.course (k + 1) = { p.course k with
      source := (p.course k).source + 1
      drawn := 0
      faults := (p.course k).faults ++ [⟨p.id, (p.course k).source + 1, c.message⟩] } := by
  rw [h.source, h.drawn] at draw
  exact draw_crash draw _

theorem Draws.afterDraw {run : Run} {x : Binary64} (h : p.Draws k t run)
    (draw : run.source run.drawn = .value x) :
    p.Draws (k + 1) t (run.afterDraw (p.shown ((k + 1) * p.period))) := by
  have next := h.next_value draw
  refine ⟨by rw [next]; exact h.attempts, h.interval, by rw [next]; exact h.source, ?_, ?_⟩
  · rw [next]
    exact congrArg (· + 1) h.drawn
  · intro last remembered
    injection remembered with same
    exact same ▸ WallTime.isBefore_self _

theorem Keeps.of_crash {run : Run} {c : Crash} (draws : p.Draws k t run)
    (draw : run.source run.drawn = .crash c) (phase : t.phase = .supervising station)
    (crashed : station.ending? = some (.crashed c)) (own : t.slot.id = p.id)
    (now : s.now = (k + 1) * p.period) (readings : s.sentBy p.id = (p.course k).readings)
    (faults : t.slot.faults = (p.course k).faults) : p.Keeps (k + 1) t s := by
  have next := draws.next_crash draw
  have idle : t.pending? = none := Supervisor.pending_of_ready (Between.of_crashed phase crashed).ready
  refine ⟨.between (.of_crashed phase crashed) now ?_ ?_, ?_, ?_⟩
  · rw [next]
    exact draws.attempts
  · rw [next]
  · rw [next, idle, readings]
    exact List.append_nil _
  · rw [next, Supervisor.faults_of_crashed phase crashed, faults, own, draws.attempts]

/-- A run that goes on while it waits for its tick has come to it. -/
theorem next_le_of_isReady {who : Party} {ticker : Ticker} (ready : station.isReady who s = true)
    (going : s.cancelled = false) (phase : station.run.phase = .ticking ticker) :
    ticker.next ≤ s.now := by
  simp only [Station.isReady, phase, going, Bool.false_or, Ticker.isDue, Instant.isDue_iff] at ready
  exact Nat.le_trans (Instant.le_ring _) ready

section Run
variable {who : Party}

/-- A step of the run leaves the slot on its course, or on the way to the next tick. -/
theorem Keeps.runs (h : p.Keeps k t s) (steady : p.Steady) (fits : p.Fits s)
    (going : s.cancelled = false) (own : t.slot.id = p.id) (proper : t.Proper)
    (phase : t.phase = .supervising station) (ready : station.isReady who s = true)
    (phase' : t'.phase = .supervising station') (slot' : t'.slot = t.slot)
    (acts : station.Acts s station' s') (now : s'.now = s.now) :
    (∃ k', p.Keeps k' t' s') ∨ p.Spins t' s'.now := by
  obtain ⟨runOwn, _, pendingOwn⟩ := proper.station station phase
  rw [own] at runOwn pendingOwn
  have live := Station.live_of_isReady ready
  have readings := h.readings
  have faults : t'.slot.faults = (p.course k).faults := by
    rw [slot', ← h.faults, Supervisor.faults_of_uncrashed phase (by simp [live])]
  simp only [Supervisor.pending?, phase] at readings
  cases h.stands with
  | between between => exact (between.not_under phase live).elim
  | under station₁ phase₁ draws beats =>
    rw [phase, SupervisorPhase.supervising.injEq] at phase₁
    subst phase₁
    have draws' : p.Draws k t' station.run :=
      ⟨slot' ▸ draws.attempts, draws.interval, draws.source, draws.drawn, draws.last⟩
    cases acts with
    | stalls fault created refused run' entered =>
      rw [created] at beats
      cases beats with
      | created instant =>
        rw [draws.interval] at refused
        have crashed : station'.ending? = some (.crashed (.text fault.message)) := by
          simp [Station.ending?, run', Run.endAt]
        refine .inr ⟨⟨k, ?_⟩, ?_, .inl (.of_crashed phase' crashed)⟩
        · rw [now, instant, Nat.mul_comm]
        · rw [now]
          exact Ticker.never_of_fault steady.pos refused
    | starts ticker created made run' entered =>
      rw [created] at beats
      cases beats with
      | created instant =>
        have none_pending : station.pending? = none := by simp [Station.pending?, created]
        rw [draws.interval, instant] at made
        have ticks : ticker = ⟨(k + 1) * p.period, p.period⟩ := by
          rw [Ticker.eq_of_start? made, Nat.succ_mul]
        refine .inl ⟨k, .of_ticking draws' phase' (ticks ▸ run') (now.trans instant) ?_ faults⟩
        rw [Scene.sentBy_congr entered, ← readings, none_pending]
        exact (List.append_nil _).symm
    | stops ticker ticking cancelled => simp [going] at cancelled
    | crashes ticker c ticking _ draw run' entered =>
      have due := next_le_of_isReady ready going ticking
      have none_pending : station.pending? = none := by simp [Station.pending?, ticking]
      have crashed : station'.ending? = some (.crashed c) := by
        simp [Station.ending?, run', Run.endAt]
      rw [ticking] at beats
      cases beats with
      | ticking past ahead =>
        have instant : s.now = (k + 1) * p.period := Nat.le_antisymm ahead due
        refine .inl ⟨k + 1, .of_crash draws' draw phase' crashed (slot' ▸ own) (now.trans instant)
          ?_ faults⟩
        rw [Scene.sentBy_congr entered, ← readings, none_pending]
        exact (List.append_nil _).symm
    | samples ticker x r ticking _ draw made sends =>
      have due := next_le_of_isReady ready going ticking
      have none_pending : station.pending? = none := by simp [Station.pending?, ticking]
      rw [ticking] at beats
      cases beats with
      | ticking past ahead =>
        have instant : s.now = (k + 1) * p.period := Nat.le_antisymm ahead due
        have next := draws.next_value draw
        rw [fits.clock, draws.stamped steady runOwn past, instant] at made
        have advanced : (⟨(k + 1) * p.period, p.period⟩ : Ticker).advance s.now =
            ⟨(k + 1 + 1) * p.period, p.period⟩ := by
          rw [instant, Nat.succ_mul (k + 1)]
          exact Ticker.advance_in_time _
        rw [advanced, made] at sends
        refine .inl ⟨k + 1, .of_sends sends (draws'.afterDraw draw) phase' (now.trans instant) rfl ?_
          (by rw [next, faults])⟩
        rw [next, ← readings, none_pending]
        simp
    | retries ticker r sending sends =>
      have pending : station.pending? = some r := by simp [Station.pending?, sending]
      rw [sending] at beats
      cases beats with
      | sending instant =>
        refine .inl ⟨k, .of_sends sends draws' phase' (now.trans instant) (pendingOwn r pending) ?_
          faults⟩
        rw [← readings, pending]
        rfl

/-- A run that is started while time stands crashes at once. -/
theorem Spins.runs (h : p.Spins t s.now) (phase : t.phase = .supervising station)
    (live : station.ending? = none) (phase' : t'.phase = .supervising station')
    (acts : station.Acts s station' s') (now : s'.now = s.now) : p.Spins t' s'.now := by
  rcases h.place with between | ⟨station₁, phase₁, created, interval⟩
  · exact (between.not_under phase live).elim
  · rw [phase, SupervisorPhase.supervising.injEq] at phase₁
    subst phase₁
    cases acts with
    | stalls fault _ refused run' entered =>
      have crashed : station'.ending? = some (.crashed (.text fault.message)) := by
        simp [Station.ending?, run', Run.endAt]
      exact ⟨now ▸ h.tick, now ▸ h.never, .inl (.of_crashed phase' crashed)⟩
    | starts ticker _ made =>
      rw [interval, Ticker.start?_of_never h.never] at made
      cases made
    | stops _ ticking | crashes _ _ ticking | samples _ _ _ ticking => simp [created] at ticking
    | retries _ _ sending => simp [created] at sending

theorem Follows.runs (h : p.Follows t s) (steady : p.Steady) (fits : p.Fits s)
    (going : s.cancelled = false) (proper : t.Proper) (phase : t.phase = .supervising station)
    (ready : station.isReady who s = true)
    (after : t' = { t with phase := .supervising station', sent := station'.sent })
    (acts : station.Acts s station' s') (same : s.SameSupply s') : p.Follows t' s' := by
  have phase' : t'.phase = .supervising station' := by rw [after]
  have slot' : t'.slot = t.slot := by rw [after]
  refine ⟨slot' ▸ h.own, by rw [after]; exact h.interval, ?_, ?_⟩
  · rw [same.created, slot', h.attempts]
  · rcases h.course with ⟨k, keeps⟩ | spins
    · exact keeps.runs steady fits going h.own proper phase ready phase' slot' acts same.now
    · exact .inr (spins.runs phase (Station.live_of_isReady ready) phase' acts same.now)

end Run

section Time
variable {now : Nat}

/-- Time passes as long as nobody can go on and no run waits for room. -/
theorem Follows.time (h : p.Follows t s) (steady : p.Steady) (later : s.now ≤ now)
    (stuck : t.isReady = false) {who : Party} (runStuck : t.isRunReady who s = false)
    (idle : t.pending? = none)
    (alarms : ∀ a ∈ t.alarms, Instant.ring a ≤ s.now ∨ now ≤ Instant.ring a) :
    p.Follows t { s with now := now } := by
  have runUnready {station : Station} (phase : t.phase = .supervising station) :
      station.isReady who s = false := by simpa [Supervisor.isRunReady, phase] using runStuck
  refine ⟨h.own, h.interval, h.attempts, ?_⟩
  rcases h.course with ⟨k, keeps⟩ | spins
  · refine .inl ⟨k, ?_, keeps.readings, keeps.faults⟩
    cases keeps.stands with
    | between between => simp [between.ready] at stuck
    | under station phase draws beats =>
      refine .under station phase draws ?_
      have unready := runUnready phase
      simp only [Supervisor.pending?, phase] at idle
      unfold Station.isReady at unready
      unfold Station.pending? at idle
      generalize hp : station.run.phase = runPhase at beats unready idle
      cases beats with
      | created instant => cases unready
      | sending instant r => cases idle
      | ticking past ahead =>
        simp only [Bool.or_eq_false_iff, Ticker.isDue] at unready
        have listed : (k + 1) * p.period ∈ t.alarms := by
          simp [Supervisor.alarms, phase, Station.alarms, hp]
        have ring := Instant.ring_of_whole (Nat.dvd_mul_left_of_dvd steady.whole (k + 1))
        refine .ticking (Nat.le_trans past later) ?_
        rcases alarms _ listed with due | ahead'
        · simp [Instant.isDue_iff.mpr due] at unready
        · rwa [ring] at ahead'
  · rcases spins.place with between | ⟨station, phase, created, _⟩
    · simp [between.ready] at stuck
    · have unready := runUnready phase
      simp [Station.isReady, created] at unready

/-- The run is cancelled between two ticks. -/
theorem Follows.closes (h : p.Follows t s) (between : ¬p.period ∣ s.now) :
    p.Closes (s.now / p.period) t s := by
  have off {k : Nat} (instant : s.now = k * p.period) : False :=
    between ⟨k, instant.trans (Nat.mul_comm _ _)⟩
  rcases h.course with ⟨k, keeps⟩ | spins
  · cases keeps.stands with
    | between _ instant => exact (off instant).elim
    | under station phase draws beats =>
      have readings := keeps.readings
      simp only [Supervisor.pending?, phase] at readings
      unfold Station.pending? at readings
      generalize hp : station.run.phase = runPhase at beats readings
      cases beats with
      | created instant => exact (off instant).elim
      | sending instant r => exact (off instant).elim
      | ticking past ahead =>
        have inside : s.now < (k + 1) * p.period :=
          Nat.lt_of_le_of_ne ahead fun instant => off instant
        have last : s.now / p.period = k := Nat.div_eq_of_lt_le past inside
        rw [last]
        exact ⟨h.own, by simpa using readings, keeps.faults,
          .inl ⟨station, phase, .inl ⟨_, hp⟩⟩⟩
  · exact (between spins.tick).elim

end Time

section Closing
variable {who : Party}

theorem Closes.beside (h : p.Closes k t s) (beside : s.Beside p.id s') : p.Closes k t s' :=
  ⟨h.own, beside.sentBy.trans h.readings, h.faults, h.place⟩

theorem Closes.joined (h : p.Closes k t s) : p.Closes k { t with joined := true } s :=
  ⟨h.own, h.readings, h.faults, h.place⟩

/-- After the cancellation a supervisor ends with the report of its slot. -/
theorem Closes.steps (h : p.Closes k t s) (cancelled : s.cancelled = true)
    (proceeds : t.Proceeds t.faults s t' s') (alike : s.Alike s') (own' : t'.slot.id = p.id) :
    p.Closes k t' s' := by
  cases proceeds.goes with
  | finishes ended same phase' =>
    have faults' : t'.faults = t.faults := by simp [Supervisor.faults, phase', proceeds.faults]
    refine ⟨own', (Scene.sentBy_congr (alike.entered .primary) _).trans h.readings,
      faults'.trans h.faults, .inr ⟨t.sent, ?_⟩⟩
    rw [phase', h.own, h.faults]
  | launches _ going | dies _ going => simp [cancelled] at going

/-- After the cancellation a run stops at its next step, without a reading. -/
theorem Closes.runs (h : p.Closes k t s) (cancelled : s.cancelled = true)
    (phase : t.phase = .supervising station) (live : station.ending? = none)
    (after : t' = { t with phase := .supervising station', sent := station'.sent })
    (acts : station.Acts s station' s') : p.Closes k t' s' := by
  have phase' : t'.phase = .supervising station' := by rw [after]
  have ticking : ∃ ticker, station.run.phase = .ticking ticker := by
    rcases h.place with ⟨station₁, phase₁, place⟩ | ⟨sent, ended⟩
    · rw [phase, SupervisorPhase.supervising.injEq] at phase₁
      subst phase₁
      refine place.resolve_right fun finished => ?_
      simp [Station.ending?, finished] at live
    · simp [phase] at ended
  obtain ⟨ticker, ticking⟩ := ticking
  cases acts with
  | stalls _ created | starts _ created => simp [ticking] at created
  | crashes _ _ _ going | samples _ _ _ _ going => simp [cancelled] at going
  | retries _ _ sending => simp [ticking] at sending
  | stops _ _ _ run' entered =>
    have finished : station'.run.phase = .ended (.returned .finished) := by rw [run']; rfl
    refine ⟨by rw [after]; exact h.own, (Scene.sentBy_congr entered _).trans h.readings, ?_,
      .inl ⟨station', phase', .inr finished⟩⟩
    rw [← h.faults, Supervisor.faults_of_uncrashed phase (by simp [live]),
      Supervisor.faults_of_uncrashed phase' (by simp [Station.ending?, finished]), after]

end Closing

end Plan
end SensorFleet
