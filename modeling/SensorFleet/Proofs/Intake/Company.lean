import SensorFleet.Proofs.Fleet.Authors
import SensorFleet.Proofs.Fleet.Pace
import SensorFleet.Proofs.Intake.Execution

/-!
The aggregator of a simulation. At the pace of the clock it goes through an execution of its own: what
the other parts of the fleet write matters to none of its reports, and time passes only as it may for
the aggregator. So what holds of an aggregator in all executions holds of it there.
-/
namespace SensorFleet

theorem Happening.isTallied_of_author {w : Happening} (foreign : w.author ≠ .aggregator) :
    w.isTallied = false := by
  cases w with
  | notice n =>
    cases n with
    | drainingQueue | aggregatorSummary => exact absurd rfl foreign
    | _ => rfl
  | taken stage r =>
    cases stage with
    | primary => exact absurd rfl foreign
    | fanout => rfl
  | _ => rfl

theorem Scene.Writes.bypasses {x : Author} {s s' : Scene} (h : s.Writes x s')
    (foreign : x ≠ .aggregator) : s.Bypasses s' := by
  obtain ⟨new, journal, each⟩ := h.journal
  refine ⟨h.now, new, journal, ?_⟩
  intro e told
  exact Happening.isTallied_of_author (each e told ▸ foreign)

namespace Intake

structure Mirrors (o : Intake) (m : Simulation) : Prop where
  aggregator : o.aggregator = m.aggregator
  scene : o.scene = m.scene

namespace Mirrors
variable {o : Intake} {m m' : Simulation}

theorem turn (h : o.Mirrors m) (turn : Simulation.Turn m m') (still : m'.scene.now = m.scene.now)
    (stage : ∀ q, m.publisher = some q → q.stage = .fanout) :
    ∃ o', Turn o o' ∧ o'.Mirrors m' := by
  rcases turn.author still stage with ⟨ready, aggregator, scene⟩ | ⟨kept, x, other, writes⟩
  · rw [← h.aggregator, ← h.scene] at ready aggregator scene
    exact ⟨o.act, .aggregator ready, aggregator.symm, scene.symm⟩
  · rw [← h.scene] at writes
    exact ⟨o.enter m'.scene, .others (writes.bypasses other), h.aggregator.trans kept.symm, rfl⟩

theorem time (h : o.Mirrors m) {t : Nat} (idle : Simulation.machine.isIdle m = true)
    (later : m.scene.now ≤ t)
    (waits : ∀ a ∈ m.alarms, Instant.ring a ≤ m.scene.now ∨ t ≤ Instant.ring a) :
    ∃ o', Turn o o' ∧ o'.Mirrors { m with scene := { m.scene with now := t } } := by
  have unready : o.aggregator.isReady o.scene = false := by
    rw [h.aggregator, h.scene]
    exact Simulation.isReady_of_isIdle idle .aggregator
  have may : o.mayPassTo t = true := by
    rw [mayPassTo, unready, h.aggregator, h.scene]
    simp only [Bool.not_false, Bool.true_and, Bool.and_eq_true, decide_eq_true_eq, List.all_eq_true,
      Bool.or_eq_true, Instant.isDue_iff]
    refine ⟨later, ?_⟩
    intro a alarm
    apply waits a
    rw [Simulation.alarms, List.mem_append, List.mem_append, List.mem_append]
    exact .inl (.inl (.inr alarm))
  refine ⟨_, .time may, h.aggregator, ?_⟩
  rw [enter_scene, h.scene]

end Mirrors
end Intake

namespace Simulation
variable {c : Config} {p : Equipment} {m : Simulation}

theorem start_intake (started : start c p = .ok m) :
    ∃ o : Intake, o.Reachable ∧ o.Mirrors m := by
  have aggregator := (start_started started).aggregator
  have scene := start_scene started
  refine ⟨⟨m.aggregator, m.scene, none⟩, .start ?_, rfl, rfl⟩
  refine ⟨?_, ?_, ?_, ?_, rfl, ?_⟩
  all_goals dsimp only
  · rw [aggregator]; rfl
  · rw [aggregator]; rfl
  · rw [aggregator]; rfl
  · rw [aggregator]; rfl
  · rw [scene]
    exact List.forall_mem_singleton.mpr rfl

/-- At the pace of the clock, the aggregator of a simulation stands as one in an execution of its own
does. -/
theorem Timed.intake {since : Option Nat} (h : Timed c p since m) :
    ∃ o : Intake, o.Reachable ∧ o.Mirrors m := by
  refine h.invariant (P := fun _ m => ∃ o : Intake, o.Reachable ∧ o.Mirrors m) start_intake ?_ ?_
  · rintro since m m' prior turn still ⟨o, reachable, mirrors⟩
    obtain ⟨o', next, mirrors'⟩ := mirrors.turn turn still prior.reachable.waits.stage
    exact ⟨o', reachable.next next, mirrors'⟩
  · rintro since m t prior idle later waits ⟨o, reachable, mirrors⟩
    obtain ⟨o', next, mirrors'⟩ := mirrors.time idle later waits
    exact ⟨o', reachable.next next, mirrors'⟩

end Simulation
end SensorFleet
