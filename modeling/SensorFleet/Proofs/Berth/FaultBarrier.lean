import SensorFleet.Proofs.Berth.Execution
import SensorFleet.Proofs.Fleet.Rundown

/-!
What the supervision of a slot comes to when its sources can be made. Every run but the latest has
crashed, and each crash is one fault of the slot, in order. A supervisor ends because its last run
has returned, or because the fleet was cancelled before a run could follow the last crash.
-/
namespace SensorFleet

/-- Once its run has returned, a supervisor starts no other. -/
theorem Supervisor.step_of_returned {t : Supervisor} {station : Station} {r : RunResult}
    (proper : t.Proper) (phase : t.phase = .supervising station)
    (ending : station.ending? = some (.returned r)) (s : Scene) : (t.step s).1.hasEnded = true := by
  rw [step_of_ended proper phase ending]
  cases r <;> exact finish_hasEnded _ _

namespace Berth

def faultsOf (id : ProducerId) (cs : List Crash) : List ProducerFault :=
  cs.mapIdx fun i c => ⟨id, i + 1, c.message⟩

theorem faultsOf_concat (id : ProducerId) (cs : List Crash) (c : Crash) :
    faultsOf id (cs ++ [c]) = faultsOf id cs ++ [⟨id, cs.length + 1, c.message⟩] := by
  rw [faultsOf, List.mapIdx_concat]
  rfl

theorem length_faultsOf (id : ProducerId) (cs : List Crash) :
    (faultsOf id cs).length = cs.length := List.length_mapIdx

def AllCrashed (logs : List RunLog) : Prop := ∀ log ∈ logs, ∃ c, log.ending = some (.crashed c)

theorem AllCrashed.length {logs : List RunLog} (h : AllCrashed logs) :
    (logs.reverse.filterMap RunLog.crash?).length = logs.length := by
  rw [List.filterMap_reverse, List.length_reverse]
  refine List.filterMap_length_eq_length.mpr fun log listed => ?_
  obtain ⟨c, ended⟩ := h log listed
  simp [RunLog.crash?, ended]

theorem crashes_of_logs {o : Berth} {log : RunLog} {earlier : List RunLog}
    (logs : o.logs = log :: earlier) :
    o.crashes = earlier.reverse.filterMap RunLog.crash? ++ log.crash?.toList := by
  rw [crashes, logs, List.reverse_cons, List.filterMap_append]
  cases crashed : log.crash? <;> simp [crashed]

def Makes (o : Berth) : Prop := ∀ nth total c, o.scene.sources o.id nth total ≠ .crash c

def Over (o : Berth) : Prop :=
  (o.scene.cancelled = true ∧ AllCrashed o.logs) ∨
    ∃ log earlier r, o.logs = log :: earlier ∧ log.ending = some (.returned r)

structure Tallied (o : Berth) : Prop where
  sent : o.supervisor.sent = o.sends
  entered : (o.scene.sentBy o.id).length = o.sends
  restarts : o.scene.counts = true →
    o.scene.metrics.figure (.restarts o.id) = o.supervisor.slot.faults.length

structure Booked (o : Berth) : Prop where
  attempts : o.supervisor.slot.attempts = o.logs.length
  created : o.scene.created.getD o.id 0 = o.logs.length
  idle : o.supervisor.phase = .created → o.logs = []
  earlier : AllCrashed o.logs.tail
  faults : o.supervisor.faults = faultsOf o.id o.crashes
  ended : ∀ e, o.supervisor.phase = .ended e → o.Over ∧ e = .returned (.ok
    ⟨o.id, .stopped, o.supervisor.sent, o.crashes.length, faultsOf o.id o.crashes⟩)

theorem Fresh.tallied {o : Berth} (h : o.Fresh) : Tallied o := by
  have sends : o.sends = 0 := by rw [Berth.sends, h.logs]; rfl
  refine ⟨?_, ?_, fun _ => ?_⟩
  · rw [sends, h.supervisor]
    rfl
  · rw [Scene.sentBy_eq_doings, h.doings, sends]
    rfl
  · rw [h.restarts, h.supervisor]
    rfl

theorem Fresh.booked {o : Berth} (h : o.Fresh) : Booked o := by
  have slot : o.supervisor.slot = { id := o.id } := by rw [h.supervisor]; rfl
  have phase : o.supervisor.phase = .created := by rw [h.supervisor]; rfl
  have crashes : o.crashes = [] := by rw [Berth.crashes, h.logs]; rfl
  refine ⟨?_, ?_, fun _ => h.logs, ?_, ?_, by simp [phase]⟩
  · rw [slot, h.logs]
    rfl
  · rw [h.created, h.logs]
    rfl
  · simp [h.logs, AllCrashed]
  · simp [Supervisor.faults, phase, slot, crashes, faultsOf]

section Turns
variable {o : Berth}

/-- The supervisor goes on at first, or at the end of the run that was started last. -/
theorem Kept.begins_or_joins (h : Kept o) (ready : o.supervisor.isReady = true) :
    o.supervisor.phase = .created ∨ ∃ station log earlier e,
      o.supervisor.phase = .supervising station ∧ station.ending? = some e ∧
        o.logs = log :: earlier ∧ log.ending = some e := by
  unfold Supervisor.isReady at ready
  cases phase : o.supervisor.phase with
  | created => exact .inl rfl
  | supervising station =>
    rw [phase] at ready
    obtain ⟨e, ending⟩ := Option.isSome_iff_exists.mp ready
    obtain ⟨log, earlier, logs, noted⟩ := h.logged station phase
    exact .inr ⟨station, log, earlier, e, rfl, ending, logs, noted.trans ending⟩
  | ended e => simp [phase] at ready

/-- When the supervisor goes on, all runs have crashed, or the latest has returned. -/
theorem Booked.crashed_or_returned (h : Booked o) (kept : Kept o)
    (ready : o.supervisor.isReady = true) :
    AllCrashed o.logs ∨ ∃ station log earlier r, o.supervisor.phase = .supervising station ∧
      station.ending? = some (.returned r) ∧ o.logs = log :: earlier ∧
      log.ending = some (.returned r) := by
  rcases kept.begins_or_joins ready with
    created | ⟨station, log, earlier, e, phase, ending, logs, noted⟩
  · rw [h.idle created]
    exact .inl (by simp [AllCrashed])
  · cases e with
    | crashed c =>
      have earlier := h.earlier
      rw [logs] at earlier ⊢
      exact .inl (List.forall_mem_cons.mpr ⟨⟨c, noted⟩, earlier⟩)
    | returned r => exact .inr ⟨station, log, earlier, r, phase, ending, logs, noted⟩

theorem supervise_crashes (o : Berth) : o.supervise.crashes = o.crashes := by
  rw [crashes, supervise_logs]
  split <;> simp [crashes, RunLog.crash?]

theorem supervise_sends (o : Berth) : o.supervise.sends = o.sends := by
  rw [sends, supervise_logs]
  split <;> simp [sends]

/-- The restarts that are counted are the faults that are recorded. -/
theorem restarts_of_meters {s s' : Scene} {t t' : Supervisor}
    (meters : s.Meters t.figure s' t'.figure) (id : t'.slot.id = t.slot.id) (on : s.counts = true)
    (h : s.metrics.figure (.restarts t.slot.id) = t.slot.faults.length) :
    s'.metrics.figure (.restarts t'.slot.id) = t'.slot.faults.length := by
  have metered := meters.figures on (.restarts t.slot.id)
  simp only [Supervisor.figure, Supervisor.ledger, id, if_true, h] at metered ⊢
  omega

theorem Turn.tallied {o' : Berth} (turn : Turn o o') (kept : Kept o) (h : Tallied o) :
    Tallied o' := by
  cases turn with
  | supervisor ready =>
    have passes := Supervisor.step_passes kept.proper o.scene ready
    have id : o.supervise.id = o.id := passes.slot
    have meters := Supervisor.step_meters kept.proper o.scene ready
    refine ⟨?_, ?_, fun on => ?_⟩
    · rw [supervise_sends, ← h.sent]
      exact passes.sent
    · rw [supervise_sends, ← h.entered, id]
      exact congrArg List.length (Scene.sentBy_congr (passes.alike.entered .primary) _)
    · have on := passes.alike.counts.symm.trans on
      exact restarts_of_meters meters passes.slot on (h.restarts on)
  | run ready =>
    obtain ⟨station, station', log, earlier, rs, runs⟩ := kept.runs ready
    have meters := Supervisor.stepRun_meters kept.proper runs.phase o.party o.scene
    refine ⟨?_, ?_, fun on => ?_⟩
    · rw [runs.sends, ← h.sent, ← (kept.proper.station station runs.phase).2.1, ← runs.sent,
        runs.supervisor']
    · rw [runs.sends, ← h.entered, runs.id, runs.sentBy, List.length_append]
    · have on := meters.counts.symm.trans on
      exact restarts_of_meters meters runs.id on (h.restarts on)
  | others spares =>
    refine ⟨h.sent, (congrArg List.length spares.sentBy).trans h.entered, fun on => ?_⟩
    exact spares.restarts.trans (h.restarts (spares.counts.symm.trans on))
  | cancel | time => exact ⟨h.sent, h.entered, h.restarts⟩

theorem Booked.supervises (h : Booked o) (kept : Kept o) (makes : o.Makes)
    (ready : o.supervisor.isReady = true) : Booked o.supervise := by
  have proceeds := Supervisor.step_proceeds kept.proper kept.lawful (s := o.scene) ready
  have passes := Supervisor.step_passes kept.proper o.scene ready
  have id : o.supervise.id = o.id := passes.slot
  have crashed := h.crashed_or_returned kept ready
  have slotFaults : o.supervise.supervisor.slot.faults = faultsOf o.id o.crashes :=
    proceeds.faults.trans h.faults
  cases proceeds.goes with
  | finishes isOver same phase attempts =>
    have phase : o.supervise.supervisor.phase = _ := phase
    have logs : o.supervise.logs = o.logs := by
      simp [supervise_logs, Supervisor.isSupervising, phase]
    refine ⟨?_, ?_, by simp [phase], ?_, ?_, fun e ended => ⟨?_, ?_⟩⟩
    · rw [logs]
      exact attempts.trans h.attempts
    · rw [logs, id, ← h.created]
      exact congrArg (·.getD o.id 0) same.created
    · rw [logs]
      exact h.earlier
    · simp [Supervisor.faults, phase, slotFaults, id, supervise_crashes]
    · rw [Over, logs]
      rcases isOver with cancelled | ⟨station, r, at_work, returned⟩
      · refine crashed.imp (fun all => ⟨passes.alike.cancelled.trans cancelled, all⟩) ?_
        rintro ⟨_, log, earlier, r, _, _, split, noted⟩
        exact ⟨log, earlier, r, split, noted⟩
      · obtain ⟨log, earlier, split, noted⟩ := kept.logged station at_work
        exact .inr ⟨log, earlier, r, split, noted.trans returned⟩
    · cases phase.symm.trans ended
      have sent : o.supervise.supervisor.sent = o.supervisor.sent := passes.sent
      rw [h.faults, length_faultsOf, id, sent, supervise_crashes, Berth.id]
  | launches source going given creation phase attempts =>
    have phase : o.supervise.supervisor.phase = _ := phase
    have logs : o.supervise.logs = {} :: o.logs := by
      simp [supervise_logs, Supervisor.isSupervising, phase]
    refine ⟨?_, ?_, by simp [phase], ?_, ?_, by simp [phase]⟩
    · rw [logs]
      exact attempts.trans (congrArg (· + 1) h.attempts)
    · have created : o.supervise.scene.created = _ := creation.created
      rw [logs, id, List.length_cons, ← h.created, created, Berth.id,
        Std.ExtTreeMap.getD_insert_self]
    · rw [logs]
      refine crashed.resolve_right ?_
      rintro ⟨station, _, _, r, at_work, returned, _⟩
      have ended := Supervisor.step_of_returned kept.proper at_work returned o.scene
      cases ended.symm.trans (Supervisor.not_hasEnded_of_supervising phase)
    · simp [Supervisor.faults, phase, slotFaults, id, supervise_crashes, Station.ending?,
        Supervisor.freshRun]
  | dies c going given creation phase attempts => exact absurd given (makes _ _ c)

theorem Booked.runs (h : Booked o) (kept : Kept o)
    (ready : o.supervisor.isRunReady o.party o.scene = true) : Booked o.run := by
  obtain ⟨station, station', log, earlier, rs, runs⟩ := kept.runs ready
  have all : AllCrashed earlier := by simpa [runs.logs] using h.earlier
  refine ⟨?_, ?_, by simp [runs.phase'], ?_, ?_, by simp [runs.phase']⟩
  · rw [runs.slot, h.attempts, runs.logs, runs.logs']
    rfl
  · rw [runs.supply.created, runs.id, h.created, runs.logs, runs.logs']
    rfl
  · rw [runs.logs']
    exact all
  · have before := h.faults
    rw [crashes_of_logs runs.logs, RunLog.crash?, runs.unended] at before
    have faults : o.supervisor.faults = o.supervisor.slot.faults := by
      simp [Supervisor.faults, runs.phase, runs.live]
    have attempts : o.supervisor.slot.attempts =
        (earlier.reverse.filterMap RunLog.crash?).length + 1 := by
      rw [h.attempts, runs.logs, all.length]
      rfl
    rw [crashes_of_logs runs.logs', RunLog.crash?, runs.id]
    unfold Supervisor.faults
    rw [runs.phase', runs.slot, ← faults, before]
    cases ending : station'.ending? with
    | none => simp [ending]
    | some e =>
      cases e with
      | returned r => simp [ending]
      | crashed c => simp [ending, attempts, faultsOf_concat, Berth.id]

theorem Turn.booked {o' : Berth} (turn : Turn o o') (kept : Kept o) (makes : o.Makes)
    (h : Booked o) : Booked o' := by
  have elsewhere {s : Scene} (created : s.created.getD o.id 0 = o.scene.created.getD o.id 0)
      (cancelled : o.scene.cancelled = true → s.cancelled = true) : Booked (o.enter s) :=
    ⟨h.attempts, created.trans h.created, h.idle, h.earlier, h.faults,
      fun e phase => (h.ended e phase).imp_left (Or.imp_left (And.imp_left cancelled))⟩
  cases turn with
  | supervisor ready => exact h.supervises kept makes ready
  | run ready => exact h.runs kept ready
  | others spares => exact elsewhere spares.created (spares.cancelled.trans ·)
  | cancel => exact elsewhere rfl fun _ => rfl
  | time => exact elsewhere rfl fun cancelled => cancelled

end Turns

theorem Reachable.tallied {o : Berth} (h : Reachable o) : Tallied o :=
  h.invariant Fresh.tallied fun prior turn tallied => turn.tallied prior.kept tallied

theorem Reachable.booked {o : Berth} (h : Reachable o) (makes : o.Makes) : Booked o := by
  revert makes
  refine h.invariant (P := fun o => o.Makes → Booked o) (fun fresh _ => fresh.booked) ?_
  intro o o' prior turn booked makes'
  have same := turn.same prior.kept
  have makes : o.Makes := fun nth total c => by
    rw [← same.id, ← same.sources]
    exact makes' nth total c
  exact turn.booked prior.kept makes (booked makes)

structure Reported (o : Berth) (report : SlotReport) : Prop where
  producer : report.producer = o.id
  state : report.state = .stopped
  faults : report.faults = o.crashes.mapIdx fun i c => ⟨o.id, i + 1, c.message⟩
  restarts : report.restarts = o.crashes.length
  counted : o.scene.counts = true →
    o.scene.metrics.figure (.restarts o.id) = o.crashes.length
  sent : report.sent = (o.logs.map RunLog.sent).sum
  entered : report.sent = (o.scene.sentBy o.id).length
  ended : ∀ log ∈ o.logs, log.ending.isSome = true
  runs : o.logs.length = o.crashes.length + 1 ∨
    o.logs.length = o.crashes.length ∧ o.scene.cancelled = true

/-- Unless a source cannot be made, a supervisor ends by returning. It reports a stopped slot with
one fault for each run that crashed, in order, and all that its runs have sent. No run follows one
that has returned, there are as many sources as runs, and the last run has returned unless the fleet
was cancelled before a run could follow the last crash. -/
theorem Reachable.fault_barrier {o : Berth} (h : Reachable o)
    (makes : ∀ nth total c, o.scene.sources o.id nth total ≠ .crash c) :
    (∀ log ∈ o.logs.tail, ∃ c, log.ending = some (.crashed c)) ∧
      o.supervisor.slot.attempts = o.logs.length ∧
      o.scene.created.getD o.id 0 = o.logs.length ∧
      ∀ e, o.supervisor.ending? = some e →
        ∃ report, e = .returned (.ok report) ∧ o.Reported report := by
  have booked := h.booked makes
  have tallied := h.tallied
  refine ⟨booked.earlier, booked.attempts, booked.created, fun e ending => ?_⟩
  have phase := Supervisor.phase_of_ending ending
  obtain ⟨final, rfl⟩ := booked.ended e phase
  have faults : o.supervisor.slot.faults.length = o.crashes.length := by
    have same := congrArg List.length booked.faults
    rwa [Supervisor.faults, phase, length_faultsOf] at same
  refine ⟨_, rfl, rfl, rfl, rfl, rfl, fun on => (tallied.restarts on).trans (by rw [faults]),
    tallied.sent, tallied.sent.trans tallied.entered.symm, ?_, ?_⟩
  · rcases final with ⟨_, all⟩ | ⟨log, earlier, r, logs, ended⟩
    · intro log listed
      obtain ⟨c, crashed⟩ := all log listed
      simp [crashed]
    · have all := booked.earlier
      rw [logs] at all ⊢
      refine List.forall_mem_cons.mpr ⟨by simp [ended], fun log listed => ?_⟩
      obtain ⟨c, crashed⟩ := all log listed
      simp [crashed]
  · rcases final with ⟨cancelled, all⟩ | ⟨log, earlier, r, logs, ended⟩
    · exact .inr ⟨all.length.symm, cancelled⟩
    · have all : AllCrashed earlier := by simpa [logs] using booked.earlier
      refine .inl ?_
      rw [crashes_of_logs logs, RunLog.crash?, ended, logs, List.length_append, all.length]
      rfl

def frail : SourceFactory := fun _ nth _ =>
  .source fun drawn => if nth = 0 ∧ drawn = 1 then .crash .other else .value default

/-- A slot whose first run crashes, and which is cancelled under its second. -/
theorem fault_barrier_of_two_runs : ∃ o report, Reachable o ∧
    (∀ nth total c, o.scene.sources o.id nth total ≠ .crash c) ∧ o.logs.length = 2 ∧
      o.supervisor.ending? = some (.returned (.ok report)) ∧ o.Reported report := by
  obtain ⟨o, leads, ended⟩ := exists_played 10000000 4 frail
    [.supervisor, .run, .time 10000000, .run, .time 20000000, .run, .supervisor, .run,
      .time 30000000, .run, .cancel, .run, .supervisor]
    (fun o => o.logs.length = 2 ∧ o.supervisor.hasEnded = true) (by decide)
  obtain ⟨two, ended⟩ := of_decide_eq_true ended
  have start : Reachable (setUp 10000000 4 frail) := ⟨_, setUp_fresh _ _ _, .refl⟩
  have reachable := start.later leads
  have makes : ∀ nth total c, o.scene.sources o.id nth total ≠ .crash c := by
    rw [(leads.same start).sources]
    exact fun _ _ _ => nofun
  obtain ⟨e, ending⟩ := Option.isSome_iff_exists.mp ended
  obtain ⟨report, rfl, reported⟩ := (reachable.fault_barrier makes).2.2.2 e ending
  exact ⟨o, report, reachable, makes, two, ending, reported⟩

end Berth
end SensorFleet
