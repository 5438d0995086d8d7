import SensorFleet.Proofs.Fleet.Roster

/-!
The order of a shutdown. The coordinator leaves the barrier when every supervisor was joined, and
supervisors are joined after their end; the primary queue is closed on leaving. So nobody is there
to write into a closed queue, and no reading is refused.
-/
namespace SensorFleet

namespace CoordinatorPhase

/-- How many of `all` supervisors are still to be joined. -/
def awaited (all : Nat) : CoordinatorPhase → Nat
  | .running _ _ => all
  | .joining left => left
  | _ => 0

/-- Whether the barrier was left. -/
def isPast : CoordinatorPhase → Bool
  | .running _ _ | .joining _ => false
  | _ => true

def isRunning : CoordinatorPhase → Bool
  | .running _ _ => true
  | _ => false

theorem awaited_of_isPast {phase : CoordinatorPhase} (h : phase.isPast = true) (all : Nat) :
    phase.awaited all = 0 := by
  cases phase <;> first | rfl | cases h

theorem not_isRunning_of_isPast {phase : CoordinatorPhase} (h : phase.isPast = true) :
    phase.isRunning = false := by
  cases phase <;> first | rfl | cases h

end CoordinatorPhase

namespace Simulation

def unjoined (m : Simulation) : Nat :=
  (m.supervisors.toList.map fun t => if t.joined then 0 else 1).sum

theorem unjoined_set {m : Simulation} {i : Nat} {t : Supervisor} (found : m.supervisors[i]? = some t)
    (t' : Supervisor) {m' : Simulation} (hs : m'.supervisors = m.supervisors.setIfInBounds i t') :
    m'.unjoined + (if t.joined then 0 else 1) = m.unjoined + if t'.joined then 0 else 1 := by
  unfold unjoined
  rw [hs, Array.toList_setIfInBounds]
  have hl : m.supervisors.toList[i]? = some t := by simpa using found
  exact sum_map_set (fun t => if t.joined then 0 else 1) hl t'

theorem joined_of_unjoined {m : Simulation} (h : m.unjoined = 0) {i : Nat} {t : Supervisor}
    (found : m.supervisors[i]? = some t) : t.joined = true := by
  have hmem : t ∈ m.supervisors.toList := List.mem_of_getElem? (i := i) (by simpa using found)
  have hz := List.sum_eq_zero_iff_forall_eq_nat.mp h _ (List.mem_map_of_mem hmem)
  simpa using hz

structure Ordered (m : Simulation) : Prop where
  joined : ∀ (i : Nat) t, m.supervisors[i]? = some t → t.joined = true → t.hasEnded = true
  awaited : m.unjoined = m.coordinator.phase.awaited m.supervisors.size
  closed : m.scene.primary.isClosed = m.coordinator.phase.isPast
  cancelled : m.coordinator.phase.isRunning = false → m.scene.cancelled = true
  closings : m.scene.closings.length = if m.coordinator.phase.isPast then 1 else 0
  late : m.scene.primary.late = 0

theorem Started.ordered {c : Config} {p : Equipment} {m : Simulation} (h : Started c p m) :
    Ordered m := by
  obtain ⟨duration, interrupt, phase⟩ := h.phase
  refine ⟨fun i t ht hj => by simp [h.not_joined ht] at hj, ?_, ?_, ?_, ?_, by rw [h.primary]; rfl⟩
  · have hone : m.supervisors.toList.map (fun t => if t.joined then 0 else 1) =
        List.replicate m.supervisors.size 1 := by
      refine List.eq_replicate_iff.mpr ⟨by simp, ?_⟩
      intro n hn
      obtain ⟨t, ht, rfl⟩ := List.mem_map.mp hn
      obtain ⟨i, hi⟩ := List.getElem?_of_mem ht
      simp [h.not_joined (i := i) (by simpa using hi)]
    simp [unjoined, hone, phase, CoordinatorPhase.awaited]
  · rw [h.primary, phase]
    rfl
  · simp [phase, CoordinatorPhase.isRunning]
  · have hc : m.scene.closings = [] := by
      simp only [Scene.closings,
        Scene.history_eq_marks fun _ hw => Happening.closing?_of_isAside hw, h.marks]
      rfl
    rw [hc, phase]
    rfl

namespace Ordered
variable {m m' : Simulation}

theorem ended (h : Ordered m) (past : m.coordinator.phase.isPast = true) {i : Nat} {t : Supervisor}
    (found : m.supervisors[i]? = some t) : t.hasEnded = true := by
  refine h.joined i t found (joined_of_unjoined ?_ found)
  rw [h.awaited, CoordinatorPhase.awaited_of_isPast past]

theorem opened (h : Ordered m) {i : Nat} {t : Supervisor} (found : m.supervisors[i]? = some t)
    (live : t.hasEnded = false) : m.scene.primary.isClosed = false := by
  rw [h.closed, Bool.eq_false_iff]
  intro past
  simp [h.ended past found] at live

theorem opened_of_joining (h : Ordered m) {left : Nat}
    (phase : m.coordinator.phase = .joining left) : m.scene.primary.isClosed = false := by
  rw [h.closed, phase]
  rfl

theorem unjoined_of_live (h : Ordered m) {i : Nat} {t : Supervisor}
    (found : m.supervisors[i]? = some t) (live : t.hasEnded = false) : t.joined = false := by
  rw [Bool.eq_false_iff]
  intro hj
  simp [h.joined i t found hj] at live

theorem of_steady (h : Ordered m) (supervisors : m'.supervisors = m.supervisors)
    (phase : m'.coordinator.phase = m.coordinator.phase) (steady : m.scene.Steady m'.scene) :
    Ordered m' where
  joined := supervisors ▸ h.joined
  awaited := by rw [phase, supervisors, ← h.awaited, unjoined, supervisors, unjoined]
  closed := by rw [steady.isClosed, phase, h.closed]
  cancelled := by rw [steady.cancelled, phase]; exact h.cancelled
  closings := by rw [steady.closings, phase, h.closings]
  late := steady.late.trans h.late

/-- Past the barrier, the coordinator goes from phase to phase. -/
theorem of_past (h : Ordered m) (past : m.coordinator.phase.isPast = true)
    (supervisors : m'.supervisors = m.supervisors) (past' : m'.coordinator.phase.isPast = true)
    (steady : m.scene.Steady m'.scene) : Ordered m' where
  joined := supervisors ▸ h.joined
  awaited := by
    have ha := h.awaited
    rw [CoordinatorPhase.awaited_of_isPast past] at ha
    rw [CoordinatorPhase.awaited_of_isPast past', ← ha, unjoined, supervisors, unjoined]
  closed := by rw [steady.isClosed, h.closed, past, past']
  cancelled := by
    rw [steady.cancelled]
    exact fun _ => h.cancelled (CoordinatorPhase.not_isRunning_of_isPast past)
  closings := by rw [steady.closings, h.closings, past, past']
  late := steady.late.trans h.late

theorem replace (h : Ordered m) {i : Nat} {t t' : Supervisor} (found : m.supervisors[i]? = some t)
    (live : t.hasEnded = false) (joined : t'.joined = t.joined)
    (supervisors : m'.supervisors = m.supervisors.setIfInBounds i t')
    (phase : m'.coordinator.phase = m.coordinator.phase) (steady : m.scene.Steady m'.scene) :
    Ordered m' where
  joined := by
    have hj := h.unjoined_of_live found live
    intro j u hu hju
    rw [supervisors] at hu
    rcases found_of_set hu with ⟨_, rfl⟩ | ⟨_, hu⟩
    · simp [joined, hj] at hju
    · exact h.joined j u hu hju
  awaited := by
    have hs := unjoined_set found t' supervisors
    rw [joined] at hs
    rw [phase, supervisors, Array.size_setIfInBounds, ← h.awaited]
    omega
  closed := by rw [steady.isClosed, phase, h.closed]
  cancelled := by rw [steady.cancelled, phase]; exact h.cancelled
  closings := by rw [steady.closings, phase, h.closings]
  late := steady.late.trans h.late

theorem join (h : Ordered m) {i left : Nat} {t : Supervisor}
    (phase : m.coordinator.phase = .joining left) (found : m.supervisors[i]? = some t)
    (ended : t.hasEnded = true) (unjoined : t.joined = false) : Ordered (m.join i t) := by
  have joins := join_joins phase ended i
  have steady := joins.alike.steady
  refine ⟨?_, ?_, ?_, ?_, ?_, steady.late.trans h.late⟩
  · intro j u hu hju
    rw [joins.supervisors] at hu
    rcases found_of_set hu with ⟨_, rfl⟩ | ⟨_, hu⟩
    · exact ended
    · exact h.joined j u hu hju
  · have hs := unjoined_set found { t with joined := true } joins.supervisors
    have ha := h.awaited
    simp only [unjoined, phase, CoordinatorPhase.awaited] at hs ha
    simp only [joins.phase, CoordinatorPhase.awaited]
    simp only [Bool.false_eq_true, if_false, if_true] at hs
    omega
  · rw [steady.isClosed, h.closed, phase, joins.phase]
    rfl
  · rw [steady.cancelled]
    exact fun _ => h.cancelled (by simp [phase, CoordinatorPhase.isRunning])
  · rw [steady.closings, h.closings, phase, joins.phase]
    rfl

theorem closeQueue (h : Ordered m) (phase : m.coordinator.phase = .joining 0) :
    Ordered m.closeQueue := by
  have opened := h.opened_of_joining phase
  have ha := h.awaited
  have hc := h.closings
  rw [phase] at ha hc
  rw [closeQueue_eq opened]
  refine ⟨h.joined, ha, rfl, fun _ => h.cancelled (by simp [phase, CoordinatorPhase.isRunning]), ?_,
    h.late⟩
  change (Scene.closings (Scene.record _ _)).length = 1
  rw [Scene.closings, Scene.history_record, Scene.history_setQueue]
  simpa [Happening.closing?, CoordinatorPhase.isPast, Scene.closings] using hc

theorem shutdown (h : Ordered m) {duration interrupt : Option Nat}
    (phase : m.coordinator.phase = .running duration interrupt) (cause : ShutdownCause) :
    Ordered (m.shutdown cause) := by
  have alike := shutdown_alike m cause
  have ha := h.awaited
  rw [phase] at ha
  refine ⟨h.joined, ha, ?_, fun _ => rfl, ?_, by rw [alike.primary]; exact h.late⟩
  · rw [alike.primary]
    exact h.closed.trans (by rw [phase]; rfl)
  · rw [alike.closings]
    exact h.closings.trans (by rw [phase]; rfl)

end Ordered

theorem Turn.ordered {c : Config} {m m' : Simulation} (turn : Turn m m') (staffed : Staffed c m)
    (h : Ordered m) : Ordered m' := by
  have close (s s' : Scene) (alike : (s.close .fanout).2.Alike s') : s.Steady s' :=
    Scene.Steady.alike ((Scene.Steady.refl s).setFanout _) alike
  cases turn with
  | shutdown cause phase => exact h.shutdown phase cause
  | closeQueue phase => exact h.closeQueue phase
  | @joinAggregator e phase ended =>
    have takes := joinAggregator_takes m e
    have hp := takes.phase
    have hs := takes.scene
    refine h.of_past (by rw [phase]; rfl) takes.keeps.supervisors ?_ ?_
    · split at hp
      · rw [hp]; rfl
      · obtain ⟨r, hr, _⟩ := hp
        rw [hr]; rfl
    · split at hs
      · exact close _ _ hs
      · exact hs.steady
  | @joinPublisher e phase watched =>
    have takes := joinPublisher_takes m e
    obtain ⟨b, alike⟩ := takes.scene
    obtain ⟨r, hr, _⟩ := takes.phase
    exact h.of_past (by rw [phase]; rfl) takes.keeps.supervisors (by rw [hr]; rfl)
      (((Scene.Steady.refl _).setBroker b).alike alike)
  | publisher present ready =>
    exact h.of_steady rfl rfl (Publisher.step_moves _ _ ready).steady
  | watcher unseen present ended => exact h.of_steady rfl rfl (close _ _ (stepWatcher_alike m _))
  | aggregator ready => exact h.of_steady rfl rfl (Aggregator.step_moves _ _ ready).steady
  | @supervisor i t found ready =>
    have passes := Supervisor.step_passes (staffed.member i t found).1 m.scene ready
    exact h.replace found (Supervisor.not_hasEnded_of_isReady ready) passes.joined rfl rfl
      passes.alike.steady
  | @run i t station found phase ready =>
    have moves := Supervisor.stepRun_moves (staffed.member i t found).1 phase ready
    have live := Supervisor.not_hasEnded_of_supervising phase
    have hrun := Supervisor.stepRun_eq phase (.slot i) m.scene
    refine h.replace found live ?_ rfl rfl ?_
    · rw [hrun]
    · rw [hrun]
      exact moves.steady (h.opened found live)
  | join phase found ended unjoined => exact h.join phase found ended unjoined
  | time | turn => exact ⟨h.joined, h.awaited, h.closed, h.cancelled, h.closings, h.late⟩
  | cancel => exact ⟨h.joined, h.awaited, h.closed, fun _ => rfl, h.closings, h.late⟩

theorem Reachable.ordered {c : Config} {p : Equipment} {m : Simulation} (h : Reachable c p m) :
    Ordered m :=
  h.invariant (fun started => (start_started started).ordered) fun prior turn hm =>
    turn.ordered prior.staffed hm

end Simulation
end SensorFleet
