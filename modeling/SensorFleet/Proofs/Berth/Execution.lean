import Mathlib.Logic.Relation
import SensorFleet.Proofs.Berth.Deeds
import SensorFleet.Proofs.Fleet.Metering

/-!
Executions of one slot. Its supervisor and its run go on when they can. Whoever is outside does
what it likes with the primary queue, cancels, and lets time pass at any moment, but writes nothing
of the slot. Along the way it is noted when the supervision and each run began, at which ticks a run
drew from its source, how many of its readings entered the queue and how it ended.
-/
namespace SensorFleet

structure Tick where
  due : Nat
  taken : Nat
deriving DecidableEq, Repr

structure RunLog where
  /-- When the run began, once it has. -/
  began : Option Nat := none
  /-- The ticks at which it drew from its source, in order. -/
  ticks : List Tick := []
  /-- How many of its readings entered the primary queue. -/
  sent : Nat := 0
  /-- How it ended, once it has. -/
  ending : Option (Ending RunResult) := none
deriving DecidableEq, Repr

def RunLog.crash? (log : RunLog) : Option Crash :=
  match log.ending with
  | some (.crashed c) => some c
  | _ => none

/-- The tick that a run takes in its next step, if it draws in it. -/
def Station.tick? (t : Station) (s : Scene) : Option Tick :=
  match t.run.phase with
  | .ticking ticker => if s.cancelled then none else some ⟨ticker.next, s.now⟩
  | _ => none

def Supervisor.station? (t : Supervisor) : Option Station :=
  match t.phase with
  | .supervising station => some station
  | _ => none

namespace Scene

/-- What may change around a slot: anything but the instant, the cancellation, the factory of the
sources, and what is known of the slot itself. -/
structure Spares (s : Scene) (id : ProducerId) (s' : Scene) : Prop where
  now : s'.now = s.now
  cancelled : s'.cancelled = s.cancelled
  counts : s'.counts = s.counts
  sources : s'.sources = s.sources
  created : s'.created.getD id 0 = s.created.getD id 0
  restarts : s'.metrics.figure (.restarts id) = s.metrics.figure (.restarts id)
  doings : s'.doings id = s.doings id

namespace Spares
variable {s s' s'' : Scene} {id : ProducerId}

theorem sentBy (h : s.Spares id s') : s'.sentBy id = s.sentBy id := by
  rw [sentBy_eq_doings, h.doings, sentBy_eq_doings]

theorem refl (s : Scene) (id : ProducerId) : s.Spares id s := ⟨rfl, rfl, rfl, rfl, rfl, rfl, rfl⟩

theorem trans (h : s.Spares id s') (h' : s'.Spares id s'') : s.Spares id s'' :=
  ⟨h'.now.trans h.now, h'.cancelled.trans h.cancelled, h'.counts.trans h.counts,
    h'.sources.trans h.sources, h'.created.trans h.created, h'.restarts.trans h.restarts,
    h'.doings.trans h.doings⟩

theorem setQueue (h : s.Spares id s') (stage : Stage) (q : ReadingQueue) :
    s.Spares id (s'.setQueue stage q) := by
  refine h.trans ?_
  cases stage <;> exact ⟨rfl, rfl, rfl, rfl, rfl, rfl, rfl⟩

theorem close (h : s.Spares id s') (stage : Stage) : s.Spares id (s'.close stage).2 :=
  h.setQueue stage _

theorem record (h : s.Spares id s') {w : Happening} (unconcerned : w.regards id = false) :
    s.Spares id (s'.record w) := by
  refine h.trans ⟨rfl, rfl, rfl, rfl, rfl, rfl, ?_⟩
  rw [doings_record, unconcerned]
  exact List.append_nil _

theorem recv (h : s.Spares id s') (stage : Stage) (who : Party) (parked : Bool) :
    s.Spares id (s'.recv stage who parked).2 := by
  have looked := s'.receives stage who parked
  generalize s'.recv stage who parked = look at looked
  cases looked with
  | item buffer => exact (h.setQueue stage _).record rfl
  | ended buffer closed | waits buffer opened => exact h.setQueue stage _

end Spares
end Scene

structure Berth where
  /-- As whom its run waits at the queue. -/
  party : Party
  supervisor : Supervisor
  scene : Scene
  /-- When the supervision began, once it has. -/
  began : Option Nat := none
  /-- How often the slot looked at the clock. -/
  looked : Nat := 0
  /-- The runs that were started, the latest first. -/
  logs : List RunLog := []

namespace Berth

def id (o : Berth) : ProducerId := o.supervisor.slot.id

def crashes (o : Berth) : List Crash := o.logs.reverse.filterMap RunLog.crash?

/-- How many readings of its runs entered the primary queue. -/
def sends (o : Berth) : Nat := (o.logs.map RunLog.sent).sum

def supervise (o : Berth) : Berth :=
  let (t, s) := o.supervisor.step o.scene
  { o with
    supervisor := t
    scene := s
    began := o.began.or (some o.scene.now)
    looked := o.looked + (s.looks - o.scene.looks)
    logs := if t.isSupervising then {} :: o.logs else o.logs }

theorem supervise_logs (o : Berth) : o.supervise.logs =
    if o.supervise.supervisor.isSupervising then {} :: o.logs else o.logs := rfl

/-- What is noted of a run after a step of it. -/
def noted (o : Berth) (t : Supervisor) (s : Scene) (log : RunLog) : RunLog where
  began := log.began.or (some o.scene.now)
  ticks := log.ticks ++ (o.supervisor.station?.bind fun station => station.tick? o.scene).toList
  sent := log.sent + ((s.sentBy o.id).length - (o.scene.sentBy o.id).length)
  ending := t.station?.bind Station.ending?

def run (o : Berth) : Berth :=
  let (t, s) := o.supervisor.stepRun o.party o.scene
  { o with
    supervisor := t
    scene := s
    looked := o.looked + (s.looks - o.scene.looks)
    logs := o.logs.modifyHead (o.noted t s) }

def enter (o : Berth) (s : Scene) : Berth := { o with scene := s }

inductive Turn (o : Berth) : Berth → Prop
  | supervisor (ready : o.supervisor.isReady = true) : Turn o o.supervise
  | run (ready : o.supervisor.isRunReady o.party o.scene = true) : Turn o o.run
  | others {s : Scene} (spares : o.scene.Spares o.id s) : Turn o (o.enter s)
  | cancel : Turn o (o.enter { o.scene with cancelled := true })
  | time {t : Nat} (later : o.scene.now ≤ t) : Turn o (o.enter { o.scene with now := t })

/-- What may come later in an execution. -/
def Leads : Berth → Berth → Prop := Relation.ReflTransGen Turn

structure Fresh (o : Berth) : Prop where
  supervisor : o.supervisor = Supervisor.new o.id o.supervisor.interval
  began : o.began = none
  looked : o.looked = 0
  logs : o.logs = []
  created : o.scene.created.getD o.id 0 = 0
  restarts : o.scene.metrics.figure (.restarts o.id) = 0
  doings : o.scene.doings o.id = []

def Reachable (o : Berth) : Prop := ∃ start : Berth, start.Fresh ∧ start.Leads o

theorem Reachable.invariant {P : Berth → Prop} {o : Berth} (h : Reachable o)
    (start : ∀ {o}, Fresh o → P o)
    (turn : ∀ {o o'}, Reachable o → Turn o o' → P o → P o') : P o := by
  obtain ⟨first, fresh, leads⟩ := h
  induction leads with
  | refl => exact start fresh
  | tail leads next ih => exact turn ⟨first, fresh, leads⟩ next ih

theorem Reachable.later {o o' : Berth} (h : Reachable o) (leads : Leads o o') : Reachable o' := by
  obtain ⟨first, fresh, before⟩ := h
  exact ⟨first, fresh, before.trans leads⟩

inductive Cue
  | supervisor
  | run
  | take
  | close
  | cancel
  | time (t : Nat)
deriving DecidableEq, Repr

def next? (o : Berth) : Cue → Option Berth
  | .supervisor => if o.supervisor.isReady then some o.supervise else none
  | .run => if o.supervisor.isRunReady o.party o.scene then some o.run else none
  | .take => some (o.enter (o.scene.recv .primary .aggregator false).2)
  | .close => some (o.enter (o.scene.close .primary).2)
  | .cancel => some (o.enter { o.scene with cancelled := true })
  | .time t => if o.scene.now ≤ t then some (o.enter { o.scene with now := t }) else none

theorem turn_of_next {o o' : Berth} {cue : Cue} (h : o.next? cue = some o') : Turn o o' := by
  cases cue with
  | supervisor =>
    simp only [next?, Option.ite_none_right_eq_some, Option.some.injEq] at h
    exact h.2 ▸ .supervisor h.1
  | run =>
    simp only [next?, Option.ite_none_right_eq_some, Option.some.injEq] at h
    exact h.2 ▸ .run h.1
  | take => exact Option.some.inj h ▸ .others ((Scene.Spares.refl _ _).recv _ _ _)
  | close => exact Option.some.inj h ▸ .others ((Scene.Spares.refl _ _).close _)
  | cancel => exact Option.some.inj h ▸ .cancel
  | time t =>
    simp only [next?, Option.ite_none_right_eq_some, Option.some.injEq] at h
    exact h.2 ▸ .time h.1

def follow (o : Berth) (cues : List Cue) : Option Berth := cues.foldlM next? o

theorem leads_of_follow {o o' : Berth} {cues : List Cue} (h : o.follow cues = some o') :
    Leads o o' := by
  induction cues generalizing o with
  | nil => exact Option.some.inj h ▸ .refl
  | cons cue cues ih =>
    rw [follow, List.foldlM_cons, Option.bind_eq_bind, Option.bind_eq_some_iff] at h
    obtain ⟨o₁, step, rest⟩ := h
    exact .head (turn_of_next step) (ih rest)

def steady : SourceFactory := fun _ _ _ => .source fun _ => .value default

/-- A slot whose supervision has not begun, at an empty queue. -/
def setUp (interval capacity : Nat) (sources : SourceFactory) : Berth where
  party := .slot 0
  supervisor := .new 1 interval
  scene :=
    { primary := Channel.new capacity
      fanout := Channel.new 1
      clock := .fixed default
      sources := sources
      broker := { kind := .recording } }

theorem setUp_fresh (interval capacity : Nat) (sources : SourceFactory) :
    (setUp interval capacity sources).Fresh := ⟨rfl, rfl, rfl, rfl, rfl, rfl, rfl⟩

theorem exists_played (interval capacity : Nat) (sources : SourceFactory) (cues : List Cue)
    (test : Berth → Bool)
    (passes : ((setUp interval capacity sources).follow cues).any test = true) :
    ∃ o, (setUp interval capacity sources).Leads o ∧ test o = true := by
  obtain ⟨o, followed, passed⟩ := (Option.any_eq_true _ _).mp passes
  exact ⟨o, leads_of_follow followed, passed⟩

/-- The slot is where its supervision has it, and the latest log is that of the run under way. -/
structure Kept (o : Berth) : Prop where
  proper : o.supervisor.Proper
  lawful : o.supervisor.Lawful
  interval : ∀ station, o.supervisor.phase = .supervising station →
    station.run.interval = o.supervisor.interval
  logged : ∀ station, o.supervisor.phase = .supervising station →
    ∃ log earlier, o.logs = log :: earlier ∧ log.ending = station.ending?

structure Runs (o : Berth) (station station' : Station) (log : RunLog) (earlier : List RunLog)
    (rs : List Reading) : Prop where
  phase : o.supervisor.phase = .supervising station
  live : station.ending? = none
  unended : log.ending = none
  due : ∀ ticker, station.run.phase = .ticking ticker →
    o.scene.cancelled = true ∨ ticker.isDue o.scene.now = true
  logs : o.logs = log :: earlier
  does : station.Does o.scene station' o.run.scene
  supervisor' : o.run.supervisor =
    { o.supervisor with phase := .supervising station', sent := station'.sent }
  logs' : o.run.logs =
    { began := log.began.or (some o.scene.now)
      ticks := log.ticks ++ (station.tick? o.scene).toList
      sent := log.sent + rs.length
      ending := station'.ending? } :: earlier
  sentBy : o.run.scene.sentBy o.id = o.scene.sentBy o.id ++ rs
  sent : station'.sent = station.sent + rs.length
  supply : o.scene.SameSupply o.run.scene

namespace Runs
variable {o : Berth} {station station' : Station} {log : RunLog} {earlier : List RunLog}
  {rs : List Reading}

theorem phase' (h : o.Runs station station' log earlier rs) :
    o.run.supervisor.phase = .supervising station' := by rw [h.supervisor']

theorem slot (h : o.Runs station station' log earlier rs) :
    o.run.supervisor.slot = o.supervisor.slot := by rw [h.supervisor']

theorem id (h : o.Runs station station' log earlier rs) : o.run.id = o.id := by
  rw [Berth.id, h.slot, Berth.id]

theorem interval (h : o.Runs station station' log earlier rs) :
    o.run.supervisor.interval = o.supervisor.interval := by rw [h.supervisor']

theorem sends (h : o.Runs station station' log earlier rs) : o.run.sends = o.sends + rs.length := by
  simp only [Berth.sends, h.logs, h.logs', List.map_cons, List.sum_cons]
  omega

end Runs

theorem Kept.runs {o : Berth} (h : Kept o)
    (ready : o.supervisor.isRunReady o.party o.scene = true) :
    ∃ station station' log earlier rs, o.Runs station station' log earlier rs := by
  unfold Supervisor.isRunReady at ready
  cases phase : o.supervisor.phase with
  | created | ended e => simp [phase] at ready
  | supervising station =>
    simp only [phase] at ready
    obtain ⟨log, earlier, logs, ending⟩ := h.logged station phase
    obtain ⟨id, sent, own⟩ := h.proper.station station phase
    have live := Station.live_of_isReady ready
    have does := station.step_does o.party o.scene live
    obtain ⟨rs, sentBy, grown⟩ := does.enters fun r waits => (own r waits).trans id.symm
    rw [id] at sentBy
    have stepped := Supervisor.stepRun_eq phase o.party o.scene
    refine ⟨station, _, log, earlier, rs, phase, live, ending.trans live, ?_, logs, ?_, ?_, ?_, ?_,
      grown, ?_⟩
    · intro ticker ticking
      simpa [Station.isReady, ticking] using ready
    · rw [run, stepped]
      exact does
    · rw [run, stepped]
    · have counted : (station.step o.party o.scene).2.sentBy o.id = o.scene.sentBy o.id ++ rs :=
        sentBy
      simp [run, stepped, logs, noted, Supervisor.station?, phase, counted]
    · rw [run, stepped]
      exact sentBy
    · rw [run, stepped]
      exact station.step_sameSupply o.party o.scene

theorem Fresh.kept {o : Berth} (h : o.Fresh) : Kept o := by
  have phase : o.supervisor.phase = .created := by rw [h.supervisor]; rfl
  have none (station : Station) : o.supervisor.phase ≠ .supervising station := by simp [phase]
  refine ⟨⟨fun station at_work => absurd at_work (none station), by simp [phase]⟩, ?_,
    fun station at_work => absurd at_work (none station),
    fun station at_work => absurd at_work (none station)⟩
  rw [h.supervisor]
  exact rfl

theorem Turn.kept {o o' : Berth} (turn : Turn o o') (h : Kept o) : Kept o' := by
  cases turn with
  | supervisor ready =>
    have proceeds := Supervisor.step_proceeds h.proper h.lawful (s := o.scene) ready
    refine ⟨(Supervisor.step_passes h.proper o.scene ready).proper,
      Supervisor.step_lawful h.lawful o.scene, fun station at_work => ?_, fun station at_work => ?_⟩
    · cases proceeds.goes with
      | finishes _ _ phase | dies _ _ _ _ phase => cases phase.symm.trans at_work
      | launches source going given makes phase =>
        cases phase.symm.trans at_work
        exact proceeds.interval.symm
    · cases proceeds.goes with
      | finishes _ _ phase | dies _ _ _ _ phase => cases phase.symm.trans at_work
      | launches source going given makes phase =>
        cases phase.symm.trans at_work
        refine ⟨{}, o.logs, ?_, rfl⟩
        simp [supervise, Supervisor.isSupervising, phase]
  | run ready =>
    obtain ⟨station, station', log, earlier, rs, runs⟩ := h.runs ready
    have proper : o.run.supervisor.Proper := by
      have stationReady : station.isReady o.party o.scene = true := by
        simpa [Supervisor.isRunReady, runs.phase] using ready
      exact Supervisor.stepRun_proper h.proper runs.phase stationReady
    refine ⟨proper, ?_, fun station₁ at_work => ?_, fun station₁ at_work => ?_⟩
    · have running := h.lawful
      rw [Supervisor.Lawful, runs.phase] at running
      rw [Supervisor.Lawful, runs.phase', runs.slot]
      exact running
    · cases runs.phase'.symm.trans at_work
      rw [runs.does.interval, h.interval station runs.phase, runs.interval]
    · cases runs.phase'.symm.trans at_work
      exact ⟨_, earlier, runs.logs', rfl⟩
  | others | cancel | time => exact ⟨h.proper, h.lawful, h.interval, h.logged⟩

theorem Reachable.kept {o : Berth} (h : Reachable o) : Kept o :=
  h.invariant Fresh.kept fun _ turn kept => turn.kept kept

structure Same (o o' : Berth) : Prop where
  id : o'.id = o.id
  interval : o'.supervisor.interval = o.supervisor.interval
  counts : o'.scene.counts = o.scene.counts
  sources : o'.scene.sources = o.scene.sources

theorem Turn.same {o o' : Berth} (turn : Turn o o') (h : Kept o) : Same o o' := by
  cases turn with
  | supervisor ready =>
    have proceeds := Supervisor.step_proceeds h.proper h.lawful (s := o.scene) ready
    have passes := Supervisor.step_passes h.proper o.scene ready
    refine ⟨passes.slot, proceeds.interval, passes.alike.counts, ?_⟩
    cases proceeds.goes with
    | finishes _ same => exact same.sources
    | launches _ _ _ makes | dies _ _ _ makes => exact makes.sources
  | run ready =>
    obtain ⟨station, station', log, earlier, rs, runs⟩ := h.runs ready
    obtain ⟨what, observed, tells⟩ := runs.does.tells
    exact ⟨runs.id, runs.interval, tells.counts, runs.supply.sources⟩
  | others spares => exact ⟨rfl, rfl, spares.counts, spares.sources⟩
  | cancel | time => exact ⟨rfl, rfl, rfl, rfl⟩

theorem Leads.same {o o' : Berth} (leads : Leads o o') (h : Reachable o) : Same o o' := by
  induction leads with
  | refl => exact ⟨rfl, rfl, rfl, rfl⟩
  | tail before turn ih =>
    have next := turn.same (h.later before).kept
    exact ⟨next.id.trans ih.id, next.interval.trans ih.interval, next.counts.trans ih.counts,
      next.sources.trans ih.sources⟩

end Berth
end SensorFleet
