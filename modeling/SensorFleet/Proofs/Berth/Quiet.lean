import SensorFleet.Proofs.Berth.Execution

/-!
A slot after the cancellation. It makes no source, starts no run, draws nothing and does not look at
the clock; its slot moves towards its end only. A reading that was waiting for room may still enter
the primary queue, and nothing else does.
-/
namespace SensorFleet

namespace Berth

/-- What becomes of a slot that is cancelled: nothing is begun, and no reading enters the queue but
one that was waiting there. -/
structure Quiet (o o' : Berth) : Prop where
  id : o'.id = o.id
  cancelled : o'.scene.cancelled = true
  created : o'.scene.created.getD o.id 0 = o.scene.created.getD o.id 0
  runs : o'.logs.length = o.logs.length
  looked : o'.looked = o.looked
  doings : ∃ new, o'.scene.doings o.id = o.scene.doings o.id ++ new ∧
    (∀ e ∈ new, e.what.isOnset = false) ∧
    ((new.filterMap fun e => e.what.entered? .primary) ++ o'.supervisor.pending?.toList).Sublist
      o.supervisor.pending?.toList

namespace Quiet
variable {o o₁ o' : Berth}

theorem refl (cancelled : o.scene.cancelled = true) : o.Quiet o :=
  ⟨rfl, cancelled, rfl, rfl, rfl, [], (List.append_nil _).symm, by simp, .refl _⟩

theorem trans (h : o.Quiet o₁) (h' : o₁.Quiet o') : o.Quiet o' := by
  obtain ⟨new, told, ended, waited⟩ := h.doings
  obtain ⟨new', told', ended', waited'⟩ := h'.doings
  rw [h.id] at told'
  refine ⟨h'.id.trans h.id, h'.cancelled, ?_, h'.runs.trans h.runs, h'.looked.trans h.looked,
    new ++ new', ?_, ?_, ?_⟩
  · rw [← h.id, h'.created, h.id, h.created]
  · rw [told', told, List.append_assoc]
  · exact List.forall_mem_append.mpr ⟨ended, ended'⟩
  · rw [List.filterMap_append, List.append_assoc]
    exact (waited'.append_left _).trans waited

end Quiet

theorem doings_of_tells {o o' : Berth} {what : List Happening} {observed : List Observation}
    (tells : o.scene.Tells what observed o'.scene) (settled : ∀ w ∈ what, w.isOnset = false)
    (waited : (what.filterMap (Happening.entered? .primary) ++
      o'.supervisor.pending?.toList).Sublist o.supervisor.pending?.toList) :
    ∃ new, o'.scene.doings o.id = o.scene.doings o.id ++ new ∧
      (∀ e ∈ new, e.what.isOnset = false) ∧
      ((new.filterMap fun e => e.what.entered? .primary) ++ o'.supervisor.pending?.toList).Sublist
        o.supervisor.pending?.toList := by
  refine ⟨_, tells.doings o.id, ?_, ?_⟩
  · simp only [List.mem_map, List.mem_filter]
    rintro _ ⟨w, ⟨listed, _⟩, rfl⟩
    exact settled w listed
  · rw [List.filterMap_map]
    exact ((List.filter_sublist.filterMap _).append_right _).trans waited

theorem Kept.quiet_supervise {o : Berth} (h : Kept o) (ready : o.supervisor.isReady = true)
    (cancelled : o.scene.cancelled = true) : o.Quiet o.supervise := by
  have passes := Supervisor.step_passes h.proper o.scene ready
  have proceeds := Supervisor.step_proceeds h.proper h.lawful (s := o.scene) ready
  obtain ⟨⟨what, observed, tells, each⟩, looks⟩ := Supervisor.step_tells o.supervisor o.scene
  cases proceeds.goes with
  | finishes isOver same phase attempts =>
    have phase : o.supervise.supervisor.phase = _ := phase
    refine ⟨passes.slot, passes.alike.cancelled.trans cancelled,
      congrArg (·.getD o.id 0) same.created, ?_, ?_, ?_⟩
    · simp [supervise_logs, Supervisor.isSupervising, phase]
    · simp [supervise, looks]
    · refine doings_of_tells tells (fun w listed => (each w listed).2.2 cancelled) ?_
      have none_entered : what.filterMap (Happening.entered? .primary) = [] :=
        List.filterMap_eq_nil_iff.mpr fun w listed => (each w listed).2.1
      have idle : o.supervise.supervisor.pending? = none := passes.pending
      simp [none_entered, idle]
  | launches source going | dies c going => cases going.symm.trans cancelled

theorem Kept.quiet_run {o : Berth} (h : Kept o)
    (ready : o.supervisor.isRunReady o.party o.scene = true)
    (cancelled : o.scene.cancelled = true) : o.Quiet o.run := by
  obtain ⟨station, station', log, earlier, rs, runs⟩ := h.runs ready
  -- every step that begins nothing is quiet when what it has sent is what was waiting
  have quiet {phase : RunPhase} {what : List Happening} {rs' : List Reading}
      (leaves : station.Leaves o.scene phase what rs' 0 station' o.run.scene)
      (asides : ∀ w ∈ what, w.isOnset = false ∧ w.entered? .primary = none)
      (waited : (rs' ++ station'.pending?.toList).Sublist station.pending?.toList) :
      o.Quiet o.run := by
    obtain ⟨observed, tells⟩ := leaves.tells
    refine ⟨runs.id, tells.cancelled.trans cancelled, ?_, ?_, ?_, ?_⟩
    · rw [runs.supply.created]
    · rw [runs.logs, runs.logs', List.length_cons, List.length_cons]
    · change o.looked + (o.run.scene.looks - o.scene.looks) = o.looked
      rw [leaves.looks, Nat.add_zero, Nat.sub_self, Nat.add_zero]
    · have before : o.supervisor.pending? = station.pending? := by
        simp [Supervisor.pending?, runs.phase]
      have after : o.run.supervisor.pending? = station'.pending? := by
        simp [Supervisor.pending?, runs.phase']
      refine doings_of_tells tells (fun w listed => ?_) ?_
      · rcases List.mem_append.mp listed with aside | entered
        · exact (asides w aside).1
        · obtain ⟨r, _, rfl⟩ := List.mem_map.mp entered
          rfl
      · have none_entered : what.filterMap (Happening.entered? .primary) = [] :=
          List.filterMap_eq_nil_iff.mpr fun w aside => (asides w aside).2
        rw [List.filterMap_append, none_entered, Happening.filterMap_entered, before, after]
        exact waited
  cases runs.does with
  | stalls fault created refused leaves =>
    exact quiet leaves (by simp) (by simp [Station.pending?, leaves.phase])
  | starts ticker created made leaves =>
    exact quiet leaves (by simp [Happening.isOnset, Happening.entered?])
      (by simp [Station.pending?, leaves.phase])
  | stops ticker ticking cancelled leaves =>
    exact quiet leaves (by simp [Happening.isOnset, Happening.entered?])
      (by simp [Station.pending?, leaves.phase])
  | crashes ticker c ticking going | samples ticker x r look ticking going =>
    cases going.symm.trans cancelled
  | retries ticker r look sending leaves =>
    refine quiet leaves (by simp) ?_
    cases look <;>
      simp [Station.pending?, leaves.phase, sending, SendLook.readings, SendLook.phase]

theorem Turn.quiet {o o' : Berth} (turn : Turn o o') (h : Kept o)
    (cancelled : o.scene.cancelled = true) : o.Quiet o' := by
  cases turn with
  | supervisor ready => exact h.quiet_supervise ready cancelled
  | run ready => exact h.quiet_run ready cancelled
  | others spares =>
    exact ⟨rfl, spares.cancelled.trans cancelled, spares.created, rfl, rfl, [],
      spares.doings.trans (List.append_nil _).symm, by simp, .refl _⟩
  | cancel => exact ⟨rfl, rfl, rfl, rfl, rfl, [], (List.append_nil _).symm, by simp, .refl _⟩
  | time => exact ⟨rfl, cancelled, rfl, rfl, rfl, [], (List.append_nil _).symm, by simp, .refl _⟩

/-- Whatever comes after the cancellation, the slot begins nothing any more. -/
theorem Reachable.quiet_after_cancellation {o o' : Berth} (h : Reachable o)
    (cancelled : o.scene.cancelled = true) (leads : Leads o o') : o.Quiet o' := by
  -- along the turns; that the fleet stays cancelled is part of what the turns before have kept
  induction leads with
  | refl => exact .refl cancelled
  | tail before turn ih => exact ih.trans (turn.quiet (h.later before).kept ih.cancelled)

/-- A reading that waits when its slot is cancelled enters the queue when there is room for it, and
the supervision ends. -/
theorem quiet_with_a_reading_waiting : ∃ o o', Reachable o ∧ o.scene.cancelled = true ∧
    o.supervisor.pending?.isSome = true ∧ Leads o o' ∧ o'.supervisor.hasEnded = true ∧
    (o'.scene.sentBy o'.id).length = (o.scene.sentBy o.id).length + 1 ∧ o.Quiet o' := by
  let ends (o : Berth) : Bool := o.scene.cancelled = true ∧ o.supervisor.pending?.isSome = true ∧
    (o.follow [.take, .run, .run, .supervisor]).any fun o' => o'.supervisor.hasEnded = true ∧
      (o'.scene.sentBy o'.id).length = (o.scene.sentBy o.id).length + 1
  obtain ⟨o, leads, ended⟩ := exists_played 10000000 1 steady
    [.supervisor, .run, .time 10000000, .run, .time 20000000, .run, .cancel] ends (by decide)
  obtain ⟨cancelled, waits, ended⟩ := of_decide_eq_true ended
  obtain ⟨o', followed, ended⟩ := (Option.any_eq_true _ _).mp ended
  obtain ⟨ended, entered⟩ := of_decide_eq_true ended
  have reachable : Reachable o := ⟨_, setUp_fresh _ _ _, leads⟩
  have later := leads_of_follow followed
  exact ⟨o, o', reachable, cancelled, waits, later, ended, entered,
    reachable.quiet_after_cancellation cancelled later⟩

end Berth
end SensorFleet
