import SensorFleet.Proofs.Fleet.Results

/-!
The life cycle of the slots is never violated. A supervisor finds its slot starting when it begins
and running while a run is under way, so that no move of the slot is refused. What the coordinator
reports as a failure is then always the crash of a task.
-/
namespace SensorFleet

namespace Slot

theorem startRun_of_starting {s : Slot} (h : s.state = .starting) :
    ∃ s', s.startRun = .ok s' ∧ s'.state = .running := by
  simp [startRun, moveTo, h, SlotState.canMoveTo, bind, Except.bind, pure, Except.pure]

theorem recordFault_of_running {s : Slot} (h : s.state = .running) (message : String) :
    ∃ s', s.recordFault message = .ok s' ∧ s'.state = .faulted := by
  simp [recordFault, moveTo, h, SlotState.canMoveTo, bind, Except.bind, pure, Except.pure]

theorem restart_of_faulted {s : Slot} (h : s.state = .faulted) :
    ∃ s', s.moveTo .starting = .ok s' ∧ s'.state = .starting := by
  simp [moveTo, h, SlotState.canMoveTo]

end Slot

namespace Supervisor

/-- The slot is where its supervision has it, and no move of it was refused. -/
def Lawful (t : Supervisor) : Prop :=
  match t.phase with
  | .created => t.slot.state = .starting
  | .supervising _ => t.slot.state = .running
  | .ended e => ∀ error, e ≠ .returned (.error error)

theorem finish_lawful (t : Supervisor) (s : Scene) : (t.finish s).1.Lawful := by
  unfold finish
  rw [Slot.stop_eq]
  simp [Lawful, endWith]

theorem launch_lawful {t : Supervisor} (h : t.slot.state = .starting) (s : Scene) :
    (t.launch s).1.Lawful := by
  obtain ⟨slot, started, running⟩ := Slot.startRun_of_starting h
  unfold launch
  split
  · exact t.finish_lawful s
  · cases s.makeSource t.slot.id with
    | mk made s₁ =>
      cases made with
      | crash c => simp [Lawful, endWith]
      | source source => simpa only [started, Lawful] using running

theorem afterCrash_lawful {t : Supervisor} (h : t.slot.state = .running) (s : Scene) (c : Crash) :
    (t.afterCrash s c).1.Lawful := by
  obtain ⟨slot, recorded, faulted⟩ := Slot.recordFault_of_running h c.message
  obtain ⟨next, moved, starting⟩ := Slot.restart_of_faulted faulted
  unfold afterCrash
  simp only [recorded, moved]
  split
  · exact finish_lawful _ _
  · exact launch_lawful starting _

theorem step_lawful {t : Supervisor} (h : t.Lawful) (s : Scene) : (t.step s).1.Lawful := by
  unfold Lawful at h
  unfold step
  cases phase : t.phase with
  | created =>
    rw [phase] at h
    exact launch_lawful h s
  | supervising station =>
    rw [phase] at h
    cases ending : station.ending? with
    | none => simpa [ending, Lawful, phase] using h
    | some e =>
      simp only [ending, afterRun]
      cases e with
      | returned result => cases result <;> exact finish_lawful _ _
      | crashed c => exact afterCrash_lawful (t := { t with sent := station.sent }) h _ c
  | ended e =>
    rw [phase] at h
    simpa [Lawful, phase] using h

theorem Turns.lawful {t t' : Supervisor} {i : Nat} {s : Scene} (turns : t.Turns i s t')
    (h : t.Lawful) : t'.Lawful := by
  cases turns with
  | steps ready => exact step_lawful h s
  | runs phase ready =>
    simp only [Lawful, phase] at h
    rw [stepRun_eq phase]
    exact h
  | joins ended unjoined => exact h

end Supervisor

namespace Simulation

theorem Turn.lawful {m m' : Simulation} (turn : Turn m m')
    (h : ∀ (i : Nat) t, m.supervisors[i]? = some t → t.Lawful) :
    ∀ (i : Nat) t, m'.supervisors[i]? = some t → t.Lawful :=
  turn.each h fun found turns => turns.lawful (h _ _ found)

theorem Reachable.lawful {c : Config} {p : Equipment} {m : Simulation} (h : Reachable c p m) :
    ∀ (i : Nat) t, m.supervisors[i]? = some t → t.Lawful := by
  refine h.invariant (fun started i t ht => ?_) fun _ turn hm => turn.lawful hm
  rw [(start_started started).found ht]
  exact rfl

def SupervisorCrashed (m : Simulation) : Prop :=
  ∃ (i : Nat) (t : Supervisor) (c : Crash), m.supervisors[i]? = some t ∧
    t.phase = .ended (.crashed c)

/-- Some task has crashed whose result the report needs. -/
def TaskCrashed (m : Simulation) : Prop :=
  m.SupervisorCrashed ∨ ∃ c, m.aggregator.ending? = some (.crashed c)

theorem conclude_failure (m : Simulation) :
    m.conclude.coordinator.failure = m.coordinator.failure := (conclude_ends m).failure

theorem failure_of_conclude {m : Simulation} {e : SimError}
    (ended : m.conclude.coordinator.phase = .ended (.error e)) : m.coordinator.failure = some e := by
  unfold conclude at ended
  cases failure : m.coordinator.failure with
  | some e' =>
    simp only [failure, endWith, CoordinatorPhase.ended.injEq, Except.error.injEq] at ended
    rw [ended]
  | none => simp [failure, endWith] at ended

theorem failure_of_failTask {m : Simulation} {c : Crash} {e : SimError}
    (failed : (m.failTask c).coordinator.failure = some e) :
    m.coordinator.failure = some e ∨ ∃ text, e = .other text := by
  cases failure : m.coordinator.failure with
  | some e' =>
    simp only [failTask, fail, failure, Option.some_or] at failed
    exact .inl failed
  | none =>
    simp only [failTask, fail, failure, Option.none_or, Option.some.injEq] at failed
    exact .inr ⟨_, failed.symm⟩

/-- What follows when the aggregator's result was noted. -/
def handOver (m : Simulation) : Simulation :=
  if m.publisher.isSome then
    ({ m with scene := (m.scene.close .fanout).2 } : Simulation).enter .awaitingPublisher
  else m.conclude

theorem joinAggregator_returned (m : Simulation) (n : AggregatorReport) :
    m.joinAggregator (.returned n) =
      handOver { m with coordinator := { m.coordinator with aggregated := n } } := rfl

theorem joinAggregator_crashed (m : Simulation) (c : Crash) :
    m.joinAggregator (.crashed c) = ((m.log (.aggregatorTaskFailed c)).failTask c).handOver := rfl

theorem handOver_failure (m : Simulation) :
    m.handOver.coordinator.failure = m.coordinator.failure := by
  unfold handOver
  split
  · rfl
  · exact conclude_failure m

theorem failure_of_handOver {m : Simulation} {e : SimError}
    (ended : m.handOver.coordinator.phase = .ended (.error e)) : m.coordinator.failure = some e := by
  unfold handOver at ended
  split at ended
  · cases ended
  · exact failure_of_conclude ended

/-- A failure was there before, or blames a task that has crashed. -/
theorem Turn.failure {m m' : Simulation} (turn : Turn m m')
    (lawful : ∀ (i : Nat) t, m.supervisors[i]? = some t → t.Lawful) {e : SimError}
    (failed : m'.coordinator.failure = some e) :
    m.coordinator.failure = some e ∨ m.TaskCrashed ∧ ∃ text, e = .other text := by
  cases turn with
  | @joinAggregator e' phase ended =>
    cases e' with
    | returned n =>
      rw [joinAggregator_returned, handOver_failure] at failed
      exact .inl failed
    | crashed k =>
      rw [joinAggregator_crashed, handOver_failure] at failed
      exact (failure_of_failTask failed).imp id fun other => ⟨.inr ⟨k, ended⟩, other⟩
  | joinPublisher phase watched => exact .inl ((joinPublisher_takes m _).failure.symm.trans failed)
  | @join i left t phase found ended unjoined =>
    obtain ⟨e', he⟩ := Option.isSome_iff_exists.mp ended
    have ended' := Supervisor.phase_of_ending he
    have hl := lawful i t found
    simp only [Supervisor.Lawful, ended'] at hl
    unfold Simulation.join at failed
    simp only [phase, he] at failed
    cases e' with
    | returned result =>
      cases result with
      | ok report => exact .inl failed
      | error e => exact absurd rfl (hl e)
    | crashed k =>
      exact (failure_of_failTask failed).imp id fun other => ⟨.inl ⟨i, t, k, found, ended'⟩, other⟩
  | _ => exact .inl failed

/-- A run that has failed ends with the failure. -/
theorem Turn.failed {m m' : Simulation} (turn : Turn m m')
    (h : ∀ e, m.coordinator.phase = .ended (.error e) → m.coordinator.failure = some e) :
    ∀ e, m'.coordinator.phase = .ended (.error e) → m'.coordinator.failure = some e := by
  have handed (m : Simulation) (e : SimError)
      (ended : m.handOver.coordinator.phase = .ended (.error e)) :
      m.handOver.coordinator.failure = some e :=
    (handOver_failure m).trans (failure_of_handOver ended)
  have concluded (m : Simulation) (e : SimError)
      (ended : m.conclude.coordinator.phase = .ended (.error e)) :
      m.conclude.coordinator.failure = some e :=
    (conclude_failure m).trans (failure_of_conclude ended)
  cases turn with
  | shutdown cause phase | closeQueue phase => exact nofun
  | @joinAggregator e phase ended =>
    cases e with
    | returned n => exact joinAggregator_returned m n ▸ handed _
    | crashed k => exact joinAggregator_crashed m k ▸ handed _
  | @joinPublisher e phase watched =>
    cases e with
    | returned q => exact concluded _
    | crashed k => exact concluded _
  | join phase found ended unjoined =>
    intro e he
    rw [(join_joins phase ended _).phase] at he
    cases he
  | _ => exact h

structure Blames (m : Simulation) : Prop where
  failure : ∀ e, m.coordinator.failure = some e → ∃ text, e = .other text
  result : ∀ e, m.coordinator.phase = .ended (.error e) → m.coordinator.failure = some e

theorem Turn.blames {m m' : Simulation} (turn : Turn m m')
    (lawful : ∀ (i : Nat) t, m.supervisors[i]? = some t → t.Lawful) (h : Blames m) : Blames m' where
  failure := fun e failed => (turn.failure lawful failed).elim (h.failure e) And.right
  result := turn.failed h.result

theorem start_failure {c : Config} {p : Equipment} {m : Simulation} (h : start c p = .ok m) :
    m.coordinator.failure = none := by
  unfold start ReadingQueue.ofCapacity at h
  split at h
  · cases h
  · injection h with h
    subst h
    rfl

theorem Reachable.blames {c : Config} {p : Equipment} {m : Simulation} (h : Reachable c p m) :
    Blames m := by
  refine h.invariant (fun {m} started => ?_) fun prior turn hm => turn.blames prior.lawful hm
  obtain ⟨duration, interrupt, phase⟩ := (start_started started).phase
  have failure : m.coordinator.failure = none := start_failure started
  exact ⟨by simp [failure], by simp [phase]⟩

theorem Turn.supervisorCrashed {m m' : Simulation} (turn : Turn m m')
    (h : m.SupervisorCrashed) : m'.SupervisorCrashed := by
  obtain ⟨i, t, c, found, crashed⟩ := h
  have ended : t.hasEnded = true := by simp [Supervisor.hasEnded, Supervisor.ending?, crashed]
  rcases turn.supervisors with same | ⟨j, u, u', hu, turns, supervisors⟩
  · exact ⟨i, t, c, same ▸ found, crashed⟩
  · by_cases hj : j = i
    · subst hj
      rw [found, Option.some.injEq] at hu
      subst hu
      refine ⟨j, u', c, ?_, ?_⟩
      · rw [supervisors, Array.getElem?_setIfInBounds_self_of_lt]
        exact (Array.getElem?_eq_some_iff.mp found).1
      · cases turns with
        | steps ready => simp [Supervisor.not_hasEnded_of_isReady ready] at ended
        | runs phase ready => simp [Supervisor.not_hasEnded_of_supervising phase] at ended
        | joins _ unjoined => exact crashed
    · exact ⟨i, t, c, by rw [supervisors, Array.getElem?_setIfInBounds_ne hj, found], crashed⟩

theorem Turn.taskCrashed {m m' : Simulation} (turn : Turn m m') (h : m.TaskCrashed) :
    m'.TaskCrashed :=
  h.imp turn.supervisorCrashed fun ⟨c, crashed⟩ => ⟨c, turn.crashed crashed⟩

/-- Nothing is blamed before a task has crashed. -/
theorem Reachable.taskCrashed {c : Config} {p : Equipment} {m : Simulation} (h : Reachable c p m)
    {e : SimError} (failed : m.coordinator.failure = some e) : m.TaskCrashed := by
  revert e
  refine h.invariant (P := fun m => ∀ {e}, m.coordinator.failure = some e → m.TaskCrashed) ?_ ?_
  · intro m started e failed
    simp [start_failure started] at failed
  · intro m m' prior turn hm e failed
    rcases turn.failure prior.lawful failed with before | ⟨crashed, _⟩
    · exact turn.taskCrashed (hm before)
    · exact turn.taskCrashed crashed

/-- When the aggregator has crashed, the run fails and blames a crash. -/
theorem Reachable.result_of_crash {c : Config} {p : Equipment} {m : Simulation}
    (h : Reachable c p m) {e : Crash} (crashed : m.aggregator.ending? = some (.crashed e))
    {r : Except SimError SimReport} (ended : m.coordinator.phase = .ended r) :
    ∃ text, r = .error (.other text) := by
  cases r with
  | ok report =>
    obtain ⟨failure, _⟩ := h.collected.reported report ended
    have returned := h.collected.aggregated failure (by rw [ended]; rfl)
    simp [crashed] at returned
  | error e =>
    obtain ⟨text, rfl⟩ := h.blames.failure e (h.blames.result e ended)
    exact ⟨text, rfl⟩

end Simulation
end SensorFleet
