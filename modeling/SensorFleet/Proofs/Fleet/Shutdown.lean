import SensorFleet.Proofs.Fleet.Results

/-!
No write after close. The primary queue is closed when every supervisor has ended, so that no run is
left that could write into it or wait for room; it is closed once, and refuses nobody.
-/
namespace SensorFleet

/-- A supervisor under which no run has ended by a refusal. -/
def Supervisor.Unrefused (t : Supervisor) : Prop :=
  ∀ station, t.phase = .supervising station → station.ending? ≠ some (.returned .refused)

theorem Supervisor.Turns.unrefused {t t' : Supervisor} {i : Nat} {s : Scene} (h : t.Turns i s t')
    (proper : t.Proper) (opened : t.hasEnded = false → s.primary.isClosed = false) :
    t'.Unrefused := by
  intro station' phase'
  cases h with
  | steps ready =>
    rcases (step_passes proper s ready).next with ⟨run, hp, created, _⟩ | ⟨e, hp, _⟩
    · rw [hp] at phase'
      injection phase' with hs
      rw [← hs]
      simp [Station.ending?, created]
    · simp [hp] at phase'
  | runs phase ready =>
    have moves := stepRun_moves proper phase ready
    rw [stepRun_eq phase] at phase'
    injection phase' with hs
    rw [← hs]
    exact moves.unrefused (opened (not_hasEnded_of_supervising phase))
  | joins ended unjoined =>
    obtain ⟨e, he⟩ := phase_of_hasEnded ended
    simp [he] at phase'

namespace Simulation

theorem Turn.unrefused {c : Config} {m m' : Simulation} (turn : Turn m m') (staffed : Staffed c m)
    (ordered : Ordered m) (h : ∀ (i : Nat) t, m.supervisors[i]? = some t → t.Unrefused) :
    ∀ (i : Nat) t, m'.supervisors[i]? = some t → t.Unrefused :=
  turn.each h fun found turns =>
    turns.unrefused (staffed.member _ _ found).1 (ordered.opened found)

theorem Reachable.unrefused {c : Config} {p : Equipment} {m : Simulation} (h : Reachable c p m) :
    ∀ (i : Nat) t, m.supervisors[i]? = some t → t.Unrefused := by
  refine h.invariant (fun started => ?_) fun prior turn hm =>
    turn.unrefused prior.staffed prior.ordered hm
  intro i t ht station phase
  rw [(start_started started).found ht] at phase
  cases phase

theorem Waits.writable_of_ended {m : Simulation} (h : Waits m)
    (ended : ∀ (i : Nat) t, m.supervisors[i]? = some t → t.hasEnded = true) :
    m.scene.primary.writable.waiting = [] := by
  refine List.eq_nil_iff_forall_not_mem.mpr fun w hw => ?_
  obtain ⟨i, t, _, found, pending⟩ := (h.attended.primary.writers.mem w).mp hw
  obtain ⟨e, he⟩ := Supervisor.phase_of_hasEnded (ended i t found)
  simp [Supervisor.pending?, he] at pending

/-- In every reachable state: when the primary queue is closed, every supervisor has ended and
nobody waits to write; a run that can go on finds the queue open; no run has ended by a refusal, and
nothing was refused; the call of the coordinator that closes the queue finds it open, and is the
only one that does; it was made when the run is over, and the report tells of no late send. -/
theorem Reachable.no_write_after_close {c : Config} {p : Equipment} {m : Simulation}
    (h : Reachable c p m) :
    (m.scene.primary.isClosed = true →
      (∀ t ∈ m.supervisors, ∃ e, t.phase = .ended e) ∧ m.scene.primary.writable.waiting = []) ∧
    (∀ i, m.isReady (.run i) = true → m.scene.primary.isClosed = false) ∧
    (∀ t ∈ m.supervisors, ∀ station, t.phase = .supervising station →
      station.ending? ≠ some (.returned .refused)) ∧
    m.scene.primary.late = 0 ∧
    (m.coordinator.phase = .joining 0 → (m.scene.close .primary).1 = true) ∧
    (m.scene.closings.length = if m.scene.primary.isClosed then 1 else 0) ∧
    (m.hasEnded = true → m.scene.primary.isClosed = true) ∧
    ∀ report, m.coordinator.phase = .ended (.ok report) → report.lateSends = 0 := by
  have ordered := h.ordered
  have ended (closed : m.scene.primary.isClosed = true) (i : Nat) (t : Supervisor)
      (found : m.supervisors[i]? = some t) : t.hasEnded = true :=
    ordered.ended (ordered.closed ▸ closed) found
  refine ⟨fun closed => ⟨?_, h.waits.writable_of_ended (ended closed)⟩, ?_, ?_, ordered.late, ?_, ?_,
    ?_, ?_⟩
  · intro t ht
    obtain ⟨i, found⟩ := Array.getElem?_of_mem ht
    exact Supervisor.phase_of_hasEnded (ended closed i t found)
  · intro i ready
    obtain ⟨t, found, hr⟩ := (Option.any_eq_true _ _).mp ready
    refine ordered.opened found ?_
    unfold Supervisor.isRunReady at hr
    split at hr
    next phase => exact Supervisor.not_hasEnded_of_supervising phase
    next => cases hr
  · intro t ht
    obtain ⟨i, found⟩ := Array.getElem?_of_mem ht
    exact h.unrefused i t found
  · intro phase
    simp [Scene.close, Scene.queue, ordered.opened_of_joining phase]
  · rw [ordered.closings, ordered.closed]
  · intro finished
    rw [ordered.closed]
    cases phase : m.coordinator.phase with
    | ended r => rfl
    | _ => simp [hasEnded, result?, phase] at finished
  · intro report phase
    obtain ⟨_, finishedAt, queue, late, hr⟩ := h.collected.reported report phase
    rw [hr]
    exact late

/-- Two slots and room for one reading; the second run waits for room when the run is cancelled. -/
theorem closed_after_cancelled_send :
    ∃ (c : Config) (p : Equipment) (m : Simulation), Reachable c p m ∧
      m.scene.primary.isClosed = true ∧ m.scene.closings.length = 1 ∧
      ∀ t ∈ m.supervisors, ∃ e, t.phase = .ended e := by
  let c : Config := { producers := 2, capacity := 1 }
  let p : Equipment :=
    { clock := .fixed default, sources := fun _ _ _ => .source fun _ => .value default }
  let cues : List Cue := [.event (.supervisor 0), .event (.supervisor 1), .event (.run 0),
    .event (.run 1), .time 100000000, .event (.run 0), .event (.run 1), .outside .cancel,
    .event (.shutdown .cancellation), .event .aggregator, .event .aggregator, .event .aggregator,
    .event (.run 1), .event (.run 1), .event (.run 0), .event (.supervisor 1),
    .event (.supervisor 0), .event (.join 1), .event (.join 0), .event .coordinator]
  obtain ⟨m, reachable, closed⟩ : ∃ m, Reachable c p m ∧ m.scene.primary.isClosed = true :=
    exists_reachable cues (by decide)
  obtain ⟨ended, _, _, _, _, closings, _⟩ := reachable.no_write_after_close
  rw [closed] at closings
  exact ⟨c, p, m, reachable, closed, closings, (ended closed).1⟩

end Simulation
end SensorFleet
