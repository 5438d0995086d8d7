import SensorFleet.Proofs.Berth.Execution
import SensorFleet.Proofs.Fleet.Rundown

/-!
The ticks of a run. They are due whole periods after its beginning, at least a period after one
another, and taken when they are due or later. A tick that is taken more than the tolerance late is
followed by one that lies ahead; ticks that are less late are caught up with, so that several may be
taken at once when the period is no longer than the tolerance.
-/
namespace SensorFleet

namespace Ticker

/-- The next tick is due whole periods after the one that was taken. -/
theorem next_advance (ticker : Ticker) {now : Nat} (due : ticker.next ≤ now) :
    ∃ n, (ticker.advance now).next = ticker.next + (n + 1) * ticker.period := by
  unfold advance
  split
  · refine ⟨(now - ticker.next) / ticker.period, ?_⟩
    have split := Nat.div_add_mod' (now - ticker.next) ticker.period
    dsimp only
    rw [Nat.add_mul, Nat.one_mul]
    omega
  · exact ⟨0, by simp⟩

theorem le_next_advance (ticker : Ticker) {now : Nat} (due : ticker.next ≤ now) :
    ticker.next + ticker.period ≤ (ticker.advance now).next := by
  obtain ⟨n, next⟩ := ticker.next_advance due
  rw [next, Nat.add_mul, Nat.one_mul]
  omega

/-- After a tick that is too late to be caught up with, the next one lies ahead. -/
theorem lt_next_advance {ticker : Ticker} {now : Nat} (pos : 0 < ticker.period)
    (late : ticker.next + tolerance < now) : now < (ticker.advance now).next := by
  unfold advance
  rw [if_pos late]
  have rem_lt := Nat.mod_lt (now - ticker.next) pos
  dsimp only
  omega

end Ticker

namespace Scene

/-- When the journal tells that a slot drew from its sources. -/
def draws (s : Scene) (id : ProducerId) : List Nat :=
  ((s.doings id).filter fun e => e.what.isSampled).map Entry.instant

theorem Tells.draws {s s' : Scene} {what : List Happening} {observed : List Observation}
    (h : s.Tells what observed s') (id : ProducerId) : s'.draws id = s.draws id ++
      (what.filter fun w => w.regards id && w.isSampled).map fun _ => s.now := by
  rw [Scene.draws, h.doings, List.filter_append, List.map_append, List.filter_map, List.map_map,
    List.filter_filter]
  simp only [Function.comp_def, Bool.and_comm]
  rfl

end Scene

/-- A tick is followed by one that is due at least a period later, and later than it was taken
itself if it was too late to be caught up with. -/
structure Tick.Precedes (a : Tick) (period due : Nat) : Prop where
  spaced : a.due + period ≤ due
  skips : a.due + Ticker.tolerance < a.taken → a.taken < due

namespace RunLog

/-- Whether a tick of the run can be due at an instant. -/
def Aligned (log : RunLog) (period due : Nat) : Prop :=
  ∃ start k, log.began = some start ∧ 1 ≤ k ∧ due = start + k * period

structure Keeps (log : RunLog) (period : Nat) : Prop where
  aligned : ∀ a ∈ log.ticks, log.Aligned period a.due
  due_le : ∀ a ∈ log.ticks, a.due ≤ a.taken
  ordered : log.ticks.Pairwise fun a b => a.Precedes period b.due

structure Awaits (log : RunLog) (period due : Nat) : Prop where
  aligned : log.Aligned period due
  ordered : ∀ a ∈ log.ticks, a.Precedes period due

section
variable {log log' : RunLog} {period due now : Nat} {ticker : Ticker}

theorem Keeps.of_untaken (ticks : log.ticks = []) : log.Keeps period := by
  refine ⟨?_, ?_, ?_⟩ <;> simp [ticks]

theorem Keeps.of_same (h : log.Keeps period) (began : log'.began = log.began)
    (ticks : log'.ticks = log.ticks) : log'.Keeps period := by
  refine ⟨?_, ?_, ?_⟩
  · rw [ticks]
    unfold Aligned
    rw [began]
    exact h.aligned
  · rw [ticks]
    exact h.due_le
  · rw [ticks]
    exact h.ordered

theorem Awaits.of_same (h : log.Awaits period due) (began : log'.began = log.began)
    (ticks : log'.ticks = log.ticks) : log'.Awaits period due := by
  refine ⟨?_, ?_⟩
  · unfold Aligned
    rw [began]
    exact h.aligned
  · rw [ticks]
    exact h.ordered

theorem Keeps.take (h : log.Keeps period) (awaits : log.Awaits period due) (late : due ≤ now)
    (began : log'.began = log.began) (ticks : log'.ticks = log.ticks ++ [⟨due, now⟩]) :
    log'.Keeps period := by
  have aligned {due : Nat} (h : log.Aligned period due) : log'.Aligned period due := by
    unfold Aligned
    rwa [began]
  refine ⟨?_, ?_, ?_⟩
  · rw [ticks]
    refine List.forall_mem_append.mpr ⟨fun a taken => aligned (h.aligned a taken), ?_⟩
    exact List.forall_mem_singleton.mpr (aligned awaits.aligned)
  · rw [ticks]
    exact List.forall_mem_append.mpr ⟨h.due_le, List.forall_mem_singleton.mpr late⟩
  · rw [ticks, List.pairwise_append]
    refine ⟨h.ordered, List.pairwise_singleton _ _, fun a taken b last => ?_⟩
    rw [List.mem_singleton.mp last]
    exact awaits.ordered a taken

theorem Awaits.take (h : log.Awaits ticker.period ticker.next) (pos : 0 < ticker.period)
    (late : ticker.next ≤ now) (began : log'.began = log.began)
    (ticks : log'.ticks = log.ticks ++ [⟨ticker.next, now⟩]) :
    log'.Awaits ticker.period (ticker.advance now).next := by
  have ahead := ticker.le_next_advance late
  refine ⟨?_, ?_⟩
  · obtain ⟨start, k, begun, le, due⟩ := h.aligned
    obtain ⟨n, next⟩ := ticker.next_advance late
    refine ⟨start, k + (n + 1), began.trans begun, by omega, ?_⟩
    rw [next, due, Nat.add_mul k, Nat.add_assoc]
  · rw [ticks]
    refine List.forall_mem_append.mpr ⟨fun a taken => ?_, List.forall_mem_singleton.mpr ⟨ahead, ?_⟩⟩
    · have before := h.ordered a taken
      have spaced := before.spaced
      exact ⟨by omega, fun skips => Nat.lt_of_lt_of_le (before.skips skips) (by omega)⟩
    · exact fun tooLate => Ticker.lt_next_advance pos tooLate

theorem Keeps.untaken (h : log.Keeps period) (unbegun : log.began = none) : log.ticks = [] := by
  refine List.eq_nil_iff_forall_not_mem.mpr fun a taken => ?_
  obtain ⟨start, k, began, _⟩ := h.aligned a taken
  cases unbegun.symm.trans began

/-- The ticks are due increasing numbers of periods after the beginning. -/
theorem Keeps.dues (h : log.Keeps period) (pos : 0 < period) {start : Nat}
    (began : log.began = some start) : ∃ ks : List Nat,
      log.ticks.map Tick.due = ks.map (start + · * period) ∧ (∀ k ∈ ks, 1 ≤ k) ∧
        ks.Pairwise (· < ·) := by
  let index (a : Tick) : Nat := (a.due - start) / period
  have due : ∀ a ∈ log.ticks, 1 ≤ index a ∧ a.due = start + index a * period := by
    intro a taken
    obtain ⟨start', k, began', one_le, due⟩ := h.aligned a taken
    cases began.symm.trans began'
    have same : index a = k := by
      simp only [index, due, Nat.add_sub_cancel_left, Nat.mul_div_cancel _ pos]
    exact ⟨same ▸ one_le, same ▸ due⟩
  refine ⟨log.ticks.map index, ?_, ?_, ?_⟩
  · rw [List.map_map]
    exact List.map_congr_left fun a taken => (due a taken).2
  · exact List.forall_mem_map.mpr fun a taken => (due a taken).1
  · refine List.pairwise_map.mpr (h.ordered.imp_of_mem fun {a b} ha hb precedes => ?_)
    have spaced := precedes.spaced
    rw [(due a ha).2, (due b hb).2] at spaced
    exact Nat.lt_of_mul_lt_mul_right (a := period) (by omega)

end
end RunLog

def RunPhase.ticker? : RunPhase → Option Ticker
  | .ticking ticker | .sending ticker _ => some ticker
  | _ => none

theorem SendLook.ticker_of_phase {look : SendLook} {ticker k : Ticker} {r : Reading}
    (h : (look.phase ticker r).ticker? = some k) : k = ticker := by
  cases look with
  | accepted | waits => exact (Option.some.inj h).symm
  | refused => cases h

namespace Berth

structure Rhythmic (o : Berth) : Prop where
  keeps : ∀ log ∈ o.logs, log.Keeps o.supervisor.interval
  unbegun : ∀ station, o.supervisor.phase = .supervising station → station.run.phase = .created →
    ∀ log earlier, o.logs = log :: earlier → log.began = none ∧ log.ticks = []
  awaits : ∀ station ticker, o.supervisor.phase = .supervising station →
    station.run.phase.ticker? = some ticker →
      0 < ticker.period ∧ ticker.period = o.supervisor.interval ∧
        ∀ log earlier, o.logs = log :: earlier → log.Awaits ticker.period ticker.next

theorem Fresh.rhythmic {o : Berth} (h : o.Fresh) : Rhythmic o := by
  have phase : o.supervisor.phase = .created := by rw [h.supervisor]; rfl
  exact ⟨by simp [h.logs], by simp [phase], by simp [phase]⟩

section Turns
variable {o o' : Berth}

theorem Rhythmic.supervises (h : Rhythmic o) (kept : Kept o) (ready : o.supervisor.isReady = true) :
    Rhythmic o.supervise := by
  have proceeds := Supervisor.step_proceeds kept.proper kept.lawful (s := o.scene) ready
  have interval : o.supervise.supervisor.interval = o.supervisor.interval := proceeds.interval
  refine ⟨fun log listed => ?_, fun station phase _ log earlier split => ?_,
    fun station ticker phase ticks => ?_⟩
  · rw [interval]
    rw [supervise_logs] at listed
    split at listed
    · rcases List.mem_cons.mp listed with rfl | listed
      · exact .of_untaken rfl
      · exact h.keeps log listed
    · exact h.keeps log listed
  · rw [supervise_logs, Supervisor.isSupervising, phase, if_pos rfl] at split
    cases split
    exact ⟨rfl, rfl⟩
  · cases proceeds.goes with
    | finishes _ _ ended | dies _ _ _ _ ended => cases ended.symm.trans phase
    | launches source going given makes started =>
      cases started.symm.trans phase
      cases ticks

theorem Rhythmic.runs (h : Rhythmic o) (kept : Kept o)
    (ready : o.supervisor.isRunReady o.party o.scene = true) : Rhythmic o.run := by
  obtain ⟨station, station', log, earlier, rs, runs⟩ := kept.runs ready
  have keeps : log.Keeps o.supervisor.interval := h.keeps log (by simp [runs.logs])
  have logs' := runs.logs'
  generalize log'_eq : RunLog.mk _ _ _ _ = log' at logs'
  -- only the latest log has changed, so only its ticks and the next one are to be looked at
  have conclude (keeps' : log'.Keeps o.supervisor.interval)
      (begun : station'.run.phase ≠ .created)
      (awaits' : ∀ ticker, station'.run.phase.ticker? = some ticker → 0 < ticker.period ∧
        ticker.period = o.supervisor.interval ∧ log'.Awaits ticker.period ticker.next) :
      Rhythmic o.run := by
    refine ⟨?_, fun station₁ at_work created => ?_, fun station₁ ticker at_work ticks => ?_⟩
    · rw [runs.interval, logs']
      refine List.forall_mem_cons.mpr ⟨keeps', fun log listed => h.keeps log ?_⟩
      rw [runs.logs]
      exact List.mem_cons_of_mem _ listed
    · cases runs.phase'.symm.trans at_work
      exact absurd created begun
    · cases runs.phase'.symm.trans at_work
      obtain ⟨pos, period, awaits⟩ := awaits' ticker ticks
      refine ⟨pos, period.trans runs.interval.symm, fun log₁ earlier₁ split => ?_⟩
      cases logs'.symm.trans split
      exact awaits
  have began' : log'.began = log.began.or (some o.scene.now) := by rw [← log'_eq]
  have ticks' : log'.ticks = log.ticks ++ (station.tick? o.scene).toList := by rw [← log'_eq]
  have begun (ticker : Ticker) (ticks : station.run.phase.ticker? = some ticker) :
      0 < ticker.period ∧ ticker.period = o.supervisor.interval ∧
        log.Awaits ticker.period ticker.next ∧ log'.began = log.began := by
    obtain ⟨pos, period, awaits⟩ := h.awaits station ticker runs.phase ticks
    obtain ⟨start, k, began, _⟩ := (awaits log earlier runs.logs).aligned
    exact ⟨pos, period, awaits log earlier runs.logs, by rw [began', began]; rfl⟩
  cases runs.does with
  | stalls fault created refused leaves =>
    obtain ⟨_, untaken⟩ := h.unbegun station runs.phase created log earlier runs.logs
    refine conclude (.of_untaken ?_) (by simp [leaves.phase])
      (by simp [RunPhase.ticker?, leaves.phase])
    simp [ticks', untaken, Station.tick?, created]
  | starts ticker created made leaves =>
    obtain ⟨unbegun, untaken⟩ := h.unbegun station runs.phase created log earlier runs.logs
    obtain ⟨pos, rfl⟩ := Publisher.start?_period made
    have none_taken : log'.ticks = [] := by simp [ticks', untaken, Station.tick?, created]
    refine conclude (.of_untaken none_taken) (by simp [leaves.phase]) fun ticker ticks => ?_
    simp only [RunPhase.ticker?, leaves.phase, Option.some.injEq] at ticks
    subst ticks
    refine ⟨pos, kept.interval station runs.phase, ⟨o.scene.now, 1, ?_, Nat.le_refl 1, ?_⟩, ?_⟩
    · rw [began', unbegun]
      rfl
    · rw [Nat.one_mul]
    · simp [none_taken]
  | stops ticker ticking cancelled leaves =>
    obtain ⟨_, _, _, same⟩ := begun ticker (by simp [RunPhase.ticker?, ticking])
    refine conclude (keeps.of_same same ?_) (by simp [leaves.phase])
      (by simp [RunPhase.ticker?, leaves.phase])
    simp [ticks', Station.tick?, ticking, cancelled]
  | crashes ticker c ticking going draw leaves =>
    obtain ⟨_, period, awaits, same⟩ := begun ticker (by simp [RunPhase.ticker?, ticking])
    have late := (Instant.le_ring _).trans (Instant.isDue_iff.mp
      ((runs.due ticker ticking).resolve_left (by simp [going])))
    refine conclude (keeps.take (period ▸ awaits) late same ?_) (by simp [leaves.phase])
      (by simp [RunPhase.ticker?, leaves.phase])
    simp [ticks', Station.tick?, ticking, going]
  | samples ticker x r look ticking going draw own leaves =>
    obtain ⟨pos, period, awaits, same⟩ := begun ticker (by simp [RunPhase.ticker?, ticking])
    have late := (Instant.le_ring _).trans (Instant.isDue_iff.mp
      ((runs.due ticker ticking).resolve_left (by simp [going])))
    have taken : log'.ticks = log.ticks ++ [⟨ticker.next, o.scene.now⟩] := by
      simp [ticks', Station.tick?, ticking, going]
    refine conclude (keeps.take (period ▸ awaits) late same taken) ?_ fun ticker' ticks => ?_
    · cases look <;> simp [leaves.phase, SendLook.phase]
    · rw [leaves.phase] at ticks
      rw [SendLook.ticker_of_phase ticks, Publisher.period_advance]
      exact ⟨pos, period, awaits.take pos late same taken⟩
  | retries ticker r look sending leaves =>
    obtain ⟨pos, period, awaits, same⟩ := begun ticker (by simp [RunPhase.ticker?, sending])
    have untaken : log'.ticks = log.ticks := by simp [ticks', Station.tick?, sending]
    refine conclude (keeps.of_same same untaken) ?_ fun ticker' ticks => ?_
    · cases look <;> simp [leaves.phase, SendLook.phase]
    · rw [leaves.phase] at ticks
      rw [SendLook.ticker_of_phase ticks]
      exact ⟨pos, period, awaits.of_same same untaken⟩

theorem Turn.rhythmic (turn : Turn o o') (kept : Kept o) (h : Rhythmic o) : Rhythmic o' := by
  cases turn with
  | supervisor ready => exact h.supervises kept ready
  | run ready => exact h.runs kept ready
  | others | cancel | time => exact ⟨h.keeps, h.unbegun, h.awaits⟩

end Turns

theorem Reachable.rhythmic {o : Berth} (h : Reachable o) : Rhythmic o :=
  h.invariant Fresh.rhythmic fun prior turn rhythmic => turn.rhythmic prior.kept rhythmic

def ticks (o : Berth) : List Tick := o.logs.reverse.flatMap RunLog.ticks

theorem supervise_ticks (o : Berth) : o.supervise.ticks = o.ticks := by
  rw [ticks, supervise_logs]
  split <;> simp [ticks]

/-- The ticks that are noted are taken when the journal tells of draws. -/
theorem Turn.draws {o o' : Berth} (turn : Turn o o') (kept : Kept o)
    (h : o.scene.draws o.id = o.ticks.map Tick.taken) :
    o'.scene.draws o'.id = o'.ticks.map Tick.taken := by
  cases turn with
  | supervisor ready =>
    obtain ⟨⟨what, observed, tells, each⟩, _⟩ := Supervisor.step_tells o.supervisor o.scene
    have id : o.supervise.id = o.id := (Supervisor.step_passes kept.proper o.scene ready).slot
    have scene : o.supervise.scene = (o.supervisor.step o.scene).2 := rfl
    have undrawn : what.filter (fun w => w.regards o.id && w.isSampled) = [] :=
      List.filter_eq_nil_iff.mpr fun w listed => by simp [(each w listed).1]
    rw [supervise_ticks, id, scene, tells.draws, undrawn, h, List.map_nil, List.append_nil]
  | run ready =>
    obtain ⟨station, station', log, earlier, rs, runs⟩ := kept.runs ready
    have own := (kept.proper.station station runs.phase).1
    have ticks : o.run.ticks = o.ticks ++ (station.tick? o.scene).toList := by
      simp [Berth.ticks, runs.logs, runs.logs']
    have told {phase : RunPhase} {what : List Happening} {rs' : List Reading} {looks : Nat}
        (leaves : station.Leaves o.scene phase what rs' looks station' o.run.scene)
        (drawn : ((what.filter fun w => w.regards o.id && w.isSampled).map fun _ => o.scene.now) =
          (station.tick? o.scene).toList.map Tick.taken) :
        o.run.scene.draws o.run.id = o.run.ticks.map Tick.taken := by
      obtain ⟨observed, tells⟩ := leaves.tells
      have unsampled : (rs'.map (Happening.entered .primary)).filter
          (fun w => w.regards o.id && w.isSampled) = [] := by
        refine List.filter_eq_nil_iff.mpr fun w listed => ?_
        obtain ⟨r, _, rfl⟩ := List.mem_map.mp listed
        simp [Happening.isSampled]
      rw [runs.id, tells.draws, ticks, List.map_append, h, List.filter_append, unsampled,
        List.append_nil, drawn]
    cases runs.does with
    | stalls fault created refused leaves => exact told leaves (by simp [Station.tick?, created])
    | starts ticker created made leaves =>
      exact told leaves (by simp [Station.tick?, created, Happening.isSampled])
    | stops ticker ticking cancelled leaves =>
      exact told leaves (by simp [Station.tick?, ticking, cancelled, Happening.isSampled])
    | crashes ticker c ticking going draw leaves
    | samples ticker x r look ticking going draw _ leaves =>
      have concerns : (Happening.sampled station.run.id).regards o.id = true := decide_eq_true own
      exact told leaves (by simp [Station.tick?, ticking, going, Happening.isSampled, concerns])
    | retries ticker r look sending leaves => exact told leaves (by simp [Station.tick?, sending])
  | others spares =>
    refine Eq.trans ?_ h
    exact congrArg (fun es => (es.filter fun e => e.what.isSampled).map Entry.instant) spares.doings
  | cancel | time => exact h

theorem Reachable.draws {o : Berth} (h : Reachable o) :
    o.scene.draws o.id = o.ticks.map Tick.taken := by
  refine h.invariant (P := fun o => o.scene.draws o.id = o.ticks.map Tick.taken) (fun fresh => ?_)
    fun prior turn draws => turn.draws prior.kept draws
  rw [Scene.draws, fresh.doings, ticks, fresh.logs]
  rfl

end Berth
end SensorFleet
