import SensorFleet.Proofs.Fleet.Lifecycle
import SensorFleet.Proofs.Fleet.Supply

/-!
Supervisors and the sources that are made for them. A step of a supervisor ends the supervision with
a report of all faults, starts the next run with the next source of its producer, or ends by the
crash of the call that makes it. So a supervisor has crashed exactly when such a call has.
-/
namespace SensorFleet

namespace Supervisor

/-- The faults of the slot, with the crash of its run if that is not recorded yet. -/
def faults (t : Supervisor) : List ProducerFault :=
  match t.phase with
  | .supervising station =>
    match station.ending? with
    | some (.crashed c) => t.slot.faults ++ [⟨t.slot.id, t.slot.attempts, c.message⟩]
    | _ => t.slot.faults
  | _ => t.slot.faults

/-- What the factory gives when the supervisor asks for a source. -/
def nextSource (t : Supervisor) (s : Scene) : Creation :=
  s.sources t.slot.id (s.created.getD t.slot.id 0) s.totalCreated

/-- Why a supervisor ends: the fleet was cancelled, or its run has returned. -/
def IsOver (t : Supervisor) (s : Scene) : Prop :=
  s.cancelled = true ∨
    ∃ station r, t.phase = .supervising station ∧ station.ending? = some (.returned r)

def freshRun (t : Supervisor) (source : Source) : Run :=
  { id := t.slot.id, interval := t.interval, source := source }

/-- What a supervisor whose slot has these faults goes on to. -/
inductive Goes (t : Supervisor) (faults : List ProducerFault) (s : Scene) (t' : Supervisor)
    (s' : Scene) : Prop
  | finishes (isOver : t.IsOver s) (same : s.SameSupply s')
      (phase : t'.phase = .ended (.returned (.ok
        ⟨t.slot.id, .stopped, t.sent, faults.length, faults⟩)))
      (attempts : t'.slot.attempts = t.slot.attempts)
  | launches (source : Source) (going : s.cancelled = false)
      (given : t.nextSource s = .source source) (makes : s.Makes t.slot.id s')
      (phase : t'.phase = .supervising ⟨t.freshRun source, t.sent⟩)
      (attempts : t'.slot.attempts = t.slot.attempts + 1)
  | dies (c : Crash) (going : s.cancelled = false) (given : t.nextSource s = .crash c)
      (makes : s.Makes t.slot.id s') (phase : t'.phase = .ended (.crashed c))
      (attempts : t'.slot.attempts = t.slot.attempts)

structure Proceeds (t : Supervisor) (fs : List ProducerFault) (s : Scene) (t' : Supervisor)
    (s' : Scene) : Prop where
  interval : t'.interval = t.interval
  faults : t'.slot.faults = fs
  goes : t.Goes fs s t' s'

theorem Proceeds.after {t t₁ t' : Supervisor} {fs : List ProducerFault} {s s₁ s' : Scene}
    (h : t₁.Proceeds fs s₁ t' s') (same : s.SameSupply s₁) (alike : s.Alike s₁)
    (slot : t₁.slot.id = t.slot.id ∧ t₁.slot.attempts = t.slot.attempts)
    (frame : t₁.interval = t.interval ∧ t₁.sent = t.sent ∧ t₁.phase = t.phase) :
    t.Proceeds fs s t' s' := by
  obtain ⟨id, attempts⟩ := slot
  obtain ⟨interval, sent, phase⟩ := frame
  have next : t₁.nextSource s₁ = t.nextSource s := by
    rw [nextSource, nextSource, id, same.sources, same.created, same.total]
  refine ⟨h.interval.trans interval, h.faults, ?_⟩
  cases h.goes with
  | finishes isOver later ended counted =>
    unfold IsOver at isOver
    rw [alike.cancelled, phase] at isOver
    rw [id, sent] at ended
    exact .finishes isOver (same.trans later) ended (counted.trans attempts)
  | launches source going given makes started counted =>
    rw [freshRun, id, interval, sent] at started
    exact .launches source (alike.cancelled ▸ going) (next ▸ given)
      (id ▸ makes.after same (.refl s')) started (by rw [counted, attempts])
  | dies c going given makes died counted =>
    exact .dies c (alike.cancelled ▸ going) (next ▸ given) (id ▸ makes.after same (.refl s')) died
      (counted.trans attempts)

theorem finish_proceeds {t : Supervisor} {s : Scene} (isOver : t.IsOver s) :
    t.Proceeds t.slot.faults s (t.finish s).1 (t.finish s).2 := by
  unfold finish
  rw [Slot.stop_eq]
  exact ⟨rfl, rfl, .finishes isOver ((Scene.SameSupply.refl s).logPath _ _ _) rfl rfl⟩

theorem launch_proceeds {t : Supervisor} (starting : t.slot.state = .starting) (s : Scene) :
    t.Proceeds t.slot.faults s (t.launch s).1 (t.launch s).2 := by
  have made := s.makeSource_makes t.slot.id
  have given : (s.makeSource t.slot.id).1 = t.nextSource s := rfl
  unfold launch
  split
  next cancelled => exact finish_proceeds (.inl cancelled)
  next going =>
    rw [Bool.not_eq_true] at going
    generalize s.makeSource t.slot.id = making at made given
    obtain ⟨creation, s₁⟩ := making
    cases creation with
    | crash c => exact ⟨rfl, rfl, .dies c going given.symm made rfl rfl⟩
    | source source =>
      have started : t.slot.startRun =
          .ok { t.slot with state := .running, attempts := t.slot.attempts + 1 } := by
        simp [Slot.startRun, Slot.moveTo, starting, SlotState.canMoveTo, bind, Except.bind, pure,
          Except.pure]
      simp only [started]
      refine ⟨rfl, rfl, .launches source going given.symm ?_ rfl rfl⟩
      exact made.after (.refl s) (((Scene.SameSupply.refl s₁).log _).count _)

theorem afterCrash_proceeds {t : Supervisor} (running : t.slot.state = .running) (s : Scene)
    (c : Crash) : t.Proceeds (t.slot.faults ++ [⟨t.slot.id, t.slot.attempts, c.message⟩]) s
      (t.afterCrash s c).1 (t.afterCrash s c).2 := by
  let faulted : Slot := { t.slot with
    state := .faulted
    faults := t.slot.faults ++ [⟨t.slot.id, t.slot.attempts, c.message⟩] }
  have recorded : t.slot.recordFault c.message = .ok faulted := by
    simp [faulted, Slot.recordFault, Slot.moveTo, running, SlotState.canMoveTo, bind, Except.bind,
      pure, Except.pure]
  have noted (n n' : Notice) (o : Observation) (hn : (Happening.notice n).isAside = true)
      (hn' : (Happening.notice n').isAside = true) (ho : ∀ id, o.settles id = 0) :
      s.SameSupply (((s.log n).count o).log n') ∧ s.Alike (((s.log n).count o).log n') :=
    ⟨(((Scene.SameSupply.refl s).log n).count o).log n',
      ((Scene.alike_log hn).trans (Scene.alike_count ho)).trans (Scene.alike_log hn')⟩
  obtain ⟨same, alike⟩ := noted (.slotMoved t.slot.id t.slot.state .faulted)
    (.producerFaulted ⟨t.slot.id, t.slot.attempts, c.message⟩) (.producerRestarted t.slot.id) rfl rfl
    fun _ => rfl
  unfold afterCrash
  simp only [recorded]
  split
  next cancelled =>
    refine (finish_proceeds (t := { t with slot := faulted }) ?_).after (same.log _) ?_ ⟨rfl, rfl⟩
      ⟨rfl, rfl, rfl⟩
    · exact .inl cancelled
    · exact alike.trans (Scene.alike_log rfl)
  next =>
    refine (launch_proceeds (t := { t with slot := { faulted with state := .starting } }) rfl
      _).after ((same.log _).log _) ?_ ⟨rfl, rfl⟩ ⟨rfl, rfl, rfl⟩
    exact (alike.trans (Scene.alike_log rfl)).trans (Scene.alike_log rfl)

theorem step_of_ended {t : Supervisor} {station : Station} {e : Ending RunResult}
    (proper : t.Proper) (phase : t.phase = .supervising station) (ending : station.ending? = some e)
    (s : Scene) : t.step s = t.afterRun s e := by
  have sent := (proper.station station phase).2.1
  have same : { t with sent := station.sent } = t := by rw [sent]
  simp only [step, phase, ending]
  rw [← phase, same]

theorem step_proceeds {t : Supervisor} (proper : t.Proper) (lawful : t.Lawful) {s : Scene}
    (ready : t.isReady = true) : t.Proceeds t.faults s (t.step s).1 (t.step s).2 := by
  unfold isReady at ready
  unfold Lawful at lawful
  cases phase : t.phase with
  | created =>
    rw [phase] at lawful
    have faults : t.faults = t.slot.faults := by simp [Supervisor.faults, phase]
    have step : t.step s = t.launch s := by simp [Supervisor.step, phase]
    rw [faults, step]
    exact launch_proceeds lawful s
  | supervising station =>
    simp only [phase] at ready lawful
    obtain ⟨e, ending⟩ := Option.isSome_iff_exists.mp ready
    have stopped := (Scene.SameSupply.refl s).count (.producerStopped t.slot.id)
    have alike : s.Alike (s.count (.producerStopped t.slot.id)) := Scene.alike_count fun _ => rfl
    rw [step_of_ended proper phase ending]
    cases e with
    | returned result =>
      have faults : t.faults = t.slot.faults := by simp [Supervisor.faults, phase, ending]
      have isOver (s : Scene) : t.IsOver s := .inr ⟨station, result, phase, ending⟩
      rw [faults]
      cases result with
      | finished => exact (finish_proceeds (isOver _)).after stopped alike ⟨rfl, rfl⟩ ⟨rfl, rfl, rfl⟩
      | refused =>
        exact (finish_proceeds (isOver _)).after (stopped.log _) (alike.trans (Scene.alike_log rfl))
          ⟨rfl, rfl⟩ ⟨rfl, rfl, rfl⟩
    | crashed c =>
      have faults : t.faults = t.slot.faults ++ [⟨t.slot.id, t.slot.attempts, c.message⟩] := by
        simp [Supervisor.faults, phase, ending]
      rw [faults]
      exact (afterCrash_proceeds lawful _ c).after stopped alike ⟨rfl, rfl⟩ ⟨rfl, rfl, rfl⟩
  | ended e => simp [phase] at ready

end Supervisor

namespace Scene

/-- Some call of the factory has crashed. It knows how many sources were made before, for the
producer and in all. -/
def CreationCrashed (s : Scene) : Prop :=
  ∃ (earlier : List ProducerId) (id : ProducerId) (later : List ProducerId) (c : Crash),
    s.made = earlier ++ id :: later ∧ s.sources id (earlier.count id) earlier.length = .crash c

structure Counted (s : Scene) : Prop where
  created : ∀ id, s.created.getD id 0 = s.made.count id
  total : s.totalCreated = s.made.length

theorem Counted.sameSupply {s s' : Scene} (h : s.Counted) (same : s.SameSupply s') : s'.Counted :=
  ⟨fun id => by rw [same.created, same.made, h.created], by rw [same.total, same.made, h.total]⟩

theorem Counted.makes {s s' : Scene} (h : s.Counted) {id : ProducerId} (makes : s.Makes id s') :
    s'.Counted where
  created := by
    intro id'
    have before := h.created id'
    rw [makes.created, makes.made, List.count_append, Std.ExtTreeMap.getD_insert]
    by_cases same : id = id'
    · subst same
      simp [before]
    · simp [same, before]
  total := by rw [makes.total, makes.made, h.total, List.length_append, List.length_singleton]

theorem creationCrashed_sameSupply {s s' : Scene} (same : s.SameSupply s') :
    s'.CreationCrashed ↔ s.CreationCrashed := by
  simp only [CreationCrashed, same.made, same.sources]

/-- The last call is the only one that was added. -/
theorem creationCrashed_makes {s s' : Scene} (h : s.Counted) {id : ProducerId}
    (makes : s.Makes id s') : s'.CreationCrashed ↔
      s.CreationCrashed ∨ ∃ c, s.sources id (s.created.getD id 0) s.totalCreated = .crash c := by
  rw [h.created, h.total]
  simp only [CreationCrashed, makes.made, makes.sources]
  constructor
  · rintro ⟨earlier, id', later, c, made, crashed⟩
    rcases List.eq_nil_or_concat later with rfl | ⟨later, last, rfl⟩
    · obtain ⟨rfl, he⟩ := List.append_inj' made rfl
      cases he
      exact .inr ⟨c, crashed⟩
    · rw [List.concat_eq_append, ← List.cons_append, ← List.append_assoc] at made
      exact .inl ⟨earlier, id', later, c, (List.append_inj' made rfl).1, crashed⟩
  · rintro (⟨earlier, id', later, c, made, crashed⟩ | ⟨c, crashed⟩)
    · exact ⟨earlier, id', later ++ [id], c, by rw [made]; simp, crashed⟩
    · exact ⟨s.made, id, [], c, rfl, crashed⟩

end Scene

namespace Simulation

theorem supervisorCrashed_set {m m' : Simulation} {i : Nat} {t t' : Supervisor}
    (found : m.supervisors[i]? = some t)
    (supervisors : m'.supervisors = m.supervisors.setIfInBounds i t')
    (same : ∀ c, t'.phase = .ended (.crashed c) ↔ t.phase = .ended (.crashed c)) :
    m'.SupervisorCrashed ↔ m.SupervisorCrashed := by
  constructor
  · rintro ⟨j, u, c, hu, crashed⟩
    rw [supervisors] at hu
    rcases found_of_set hu with ⟨_, rfl⟩ | ⟨_, hu⟩
    · exact ⟨i, t, c, found, (same c).mp crashed⟩
    · exact ⟨j, u, c, hu, crashed⟩
  · rintro ⟨j, u, c, hu, crashed⟩
    by_cases hj : i = j
    · subst hj
      rw [found, Option.some.injEq] at hu
      subst hu
      refine ⟨i, t', c, ?_, (same c).mpr crashed⟩
      rw [supervisors, Array.getElem?_setIfInBounds_self_of_lt]
      exact (Array.getElem?_eq_some_iff.mp found).1
    · exact ⟨j, u, c, by rw [supervisors, Array.getElem?_setIfInBounds_ne hj, hu], crashed⟩

/-- The factory is the one that was given, its calls are counted, and a supervisor has crashed
exactly when a call has. -/
structure Supplied (p : Equipment) (m : Simulation) : Prop where
  sources : m.scene.sources = p.sources
  clock : m.scene.clock = p.clock
  counted : m.scene.Counted
  crashed : m.SupervisorCrashed ↔ m.scene.CreationCrashed

namespace Supplied
variable {p : Equipment} {m m' : Simulation}

theorem sameSupply (h : Supplied p m) (same : m.scene.SameSupply m'.scene)
    (crashed : m'.SupervisorCrashed ↔ m.SupervisorCrashed) : Supplied p m' :=
  ⟨same.sources.trans h.sources, same.clock.trans h.clock, h.counted.sameSupply same,
    crashed.trans (h.crashed.trans (Scene.creationCrashed_sameSupply same).symm)⟩

theorem proceeds (h : Supplied p m) {i : Nat} {t t' : Supervisor} {fs : List ProducerFault}
    (found : m.supervisors[i]? = some t) (live : t.hasEnded = false)
    (supervisors : m'.supervisors = m.supervisors.setIfInBounds i t')
    (proceeds : t.Proceeds fs m.scene t' m'.scene) : Supplied p m' := by
  have uncrashed (c : Crash) : t.phase ≠ .ended (.crashed c) := by
    intro he
    simp [Supervisor.hasEnded, Supervisor.ending?, he] at live
  have quiet (alive : ∀ c, t'.phase ≠ .ended (.crashed c)) :
      m'.SupervisorCrashed ↔ m.SupervisorCrashed :=
    supervisorCrashed_set found supervisors fun c => iff_of_false (alive c) (uncrashed c)
  cases proceeds.goes with
  | finishes isOver same phase => exact h.sameSupply same (quiet (by simp [phase]))
  | launches source going given makes phase =>
    refine ⟨makes.sources.trans h.sources, makes.clock.trans h.clock, h.counted.makes makes, ?_⟩
    have uncreated (c : Crash) : t.nextSource m.scene ≠ .crash c := by simp [given]
    rw [Scene.creationCrashed_makes h.counted makes, quiet (by simp [phase]), h.crashed]
    refine ⟨.inl, fun hc => hc.resolve_right ?_⟩
    rintro ⟨c, hc⟩
    exact uncreated c hc
  | dies c going given makes phase =>
    refine ⟨makes.sources.trans h.sources, makes.clock.trans h.clock, h.counted.makes makes, ?_⟩
    refine iff_of_true ⟨i, t', c, ?_, phase⟩ ?_
    · rw [supervisors, Array.getElem?_setIfInBounds_self_of_lt]
      exact (Array.getElem?_eq_some_iff.mp found).1
    · exact (Scene.creationCrashed_makes h.counted makes).mpr (.inr ⟨c, given⟩)

end Supplied

theorem Turn.supplied {c : Config} {p : Equipment} {m m' : Simulation} (turn : Turn m m')
    (staffed : Staffed c m) (lawful : ∀ (i : Nat) t, m.supervisors[i]? = some t → t.Lawful)
    (h : Supplied p m) : Supplied p m' := by
  have rest {m' : Simulation} (same : m.scene.SameSupply m'.scene)
      (supervisors : m'.supervisors = m.supervisors) : Supplied p m' :=
    h.sameSupply same (by simp only [SupervisorCrashed, supervisors])
  cases turn with
  | shutdown cause phase =>
    refine rest ?_ rfl
    exact ((Scene.SameSupply.refl m.scene).log _).trans ⟨rfl, rfl, Nat.le_refl _, rfl, rfl, rfl, rfl⟩
  | closeQueue phase => exact rest (closeQueue_sameSupply m) rfl
  | joinAggregator phase ended =>
    exact rest (joinAggregator_sameSupply m _) (joinAggregator_takes m _).keeps.supervisors
  | joinPublisher phase watched =>
    exact rest (joinPublisher_sameSupply m _) (joinPublisher_takes m _).keeps.supervisors
  | publisher present ready => exact rest (Publisher.step_sameSupply _ _) rfl
  | watcher unseen present ended => exact rest (stepWatcher_sameSupply m _) rfl
  | aggregator ready => exact rest (Aggregator.step_sameSupply _ _) rfl
  | @supervisor i t found ready =>
    exact h.proceeds found (Supervisor.not_hasEnded_of_isReady ready) rfl
      (Supervisor.step_proceeds (staffed.member i t found).1 (lawful i t found) ready)
  | @run i t station found phase ready =>
    rw [Supervisor.stepRun_eq phase]
    refine h.sameSupply (Station.step_sameSupply _ _ _) (supervisorCrashed_set found rfl ?_)
    simp [phase]
  | @join i left t phase found ended unjoined =>
    exact h.sameSupply (join_sameSupply m i t)
      (supervisorCrashed_set found (join_joins phase ended i).supervisors fun _ => Iff.rfl)
  | time | cancel | turn =>
    exact ⟨h.sources, h.clock, ⟨h.counted.created, h.counted.total⟩, h.crashed⟩

theorem start_supplied {c : Config} {p : Equipment} {m : Simulation} (h : start c p = .ok m) :
    Supplied p m := by
  have started := start_started h
  have uncrashed : ¬m.SupervisorCrashed := by
    rintro ⟨i, t, k, found, crashed⟩
    rw [started.found found] at crashed
    simp [Supervisor.new] at crashed
  have fresh : m.scene.sources = p.sources ∧ m.scene.clock = p.clock ∧ m.scene.made = [] ∧
      m.scene.created = ∅ ∧ m.scene.totalCreated = 0 := by
    rw [start_scene h]
    exact ⟨rfl, rfl, rfl, rfl, rfl⟩
  obtain ⟨sources, clock, made, created, total⟩ := fresh
  refine ⟨sources, clock, ⟨fun id => by simp [created, made], by simp [total, made]⟩, ?_⟩
  exact iff_of_false uncrashed (by simp [Scene.CreationCrashed, made])

theorem Reachable.supplied {c : Config} {p : Equipment} {m : Simulation} (h : Reachable c p m) :
    Supplied p m :=
  h.invariant start_supplied fun prior turn hm => turn.supplied prior.staffed prior.lawful hm

end Simulation
end SensorFleet
