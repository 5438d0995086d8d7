import SensorFleet.Fleet.Simulation
import SensorFleet.Proofs.Fleet.Consumers
import SensorFleet.Proofs.Fleet.Slots

/-!
Executions of a simulation. A task goes on to its next wait, time passes, or somebody outside
cancels the run or turns a switch of the broker; any order of these is an execution. Time may pass
at any moment, so that what holds in every reachable state holds under the scheduler as well, which
lets time pass only when no task can go on.
-/
namespace SensorFleet.Simulation

inductive Cue
  | event (e : SimulationEvent)
  | time (t : Nat)
  | outside (i : Intervention)
deriving DecidableEq, Repr

def next? (m : Simulation) : Cue → Option Simulation
  | .event e => if m.isReady e then some (m.step e) else none
  | .time t => if m.scene.now ≤ t then some (machine.moveTo m t) else none
  | .outside i => some (m.apply i)

/-- The states that a simulation can come to. -/
inductive Reachable (c : Config) (p : Equipment) : Simulation → Prop
  | start {m : Simulation} (started : start c p = .ok m) : Reachable c p m
  | next {m m' : Simulation} (prior : Reachable c p m) (cue : Cue) (step : m.next? cue = some m') :
      Reachable c p m'

def follow (m : Simulation) (cues : List Cue) : Option Simulation := cues.foldlM next? m

@[simp] theorem follow_nil {m m' : Simulation} : m.follow [] = some m' ↔ m = m' := by
  simp only [follow, List.foldlM_nil, Option.pure_def, Option.some.injEq]

theorem follow_cons {m m' : Simulation} {cue : Cue} {cues : List Cue} :
    m.follow (cue :: cues) = some m' ↔
      ∃ m₁, m.next? cue = some m₁ ∧ m₁.follow cues = some m' := by
  simp only [follow, List.foldlM_cons, Option.bind_eq_bind, Option.bind_eq_some_iff]

theorem follow_append (m : Simulation) (first rest : List Cue) :
    m.follow (first ++ rest) = (m.follow first).bind fun m' => m'.follow rest := by
  simp only [follow, List.foldlM_append, Option.bind_eq_bind]

theorem follow_one (m : Simulation) (cue : Cue) : m.follow [cue] = m.next? cue := by
  simp only [follow, List.foldlM_cons, List.foldlM_nil, Option.bind_eq_bind, Option.pure_def,
    Option.bind_fun_some]

theorem follow_keeps {P : Simulation → Prop} {m m' : Simulation} {cues : List Cue}
    (hf : m.follow cues = some m') (hm : P m)
    (next : ∀ {m m'} cue, m.next? cue = some m' → P m → P m') : P m' := by
  induction cues generalizing m with
  | nil => exact follow_nil.mp hf ▸ hm
  | cons cue cues ih =>
    obtain ⟨m₁, step, rest⟩ := follow_cons.mp hf
    exact ih rest (next cue step hm)

theorem Reachable.follow {c : Config} {p : Equipment} {m m' : Simulation} {cues : List Cue}
    (h : Reachable c p m) (hf : m.follow cues = some m') : Reachable c p m' :=
  follow_keeps hf h fun cue step h => h.next cue step

def run? (c : Config) (p : Equipment) (cues : List Cue) : Option Simulation :=
  (start c p).toOption.bind fun m => m.follow cues

theorem run_nil {c : Config} {p : Equipment} {m : Simulation} :
    run? c p [] = some m ↔ start c p = .ok m := by
  cases started : start c p <;> simp [run?, follow, started, Except.toOption]

theorem run_append {c : Config} {p : Equipment} {first rest : List Cue} {m : Simulation} :
    run? c p (first ++ rest) = some m ↔ ∃ m₁, run? c p first = some m₁ ∧ m₁.follow rest = some m := by
  simp only [run?, follow_append, ← Option.bind_assoc, Option.bind_eq_some_iff]

theorem Reachable.of_run {c : Config} {p : Equipment} {m : Simulation} {cues : List Cue}
    (h : run? c p cues = some m) : Reachable c p m := by
  obtain ⟨m₀, hs, hf⟩ := Option.bind_eq_some_iff.mp h
  cases started : Simulation.start c p with
  | error e => simp [started, Except.toOption] at hs
  | ok m₁ =>
    simp only [started, Except.toOption, Option.some.injEq] at hs
    subst hs
    exact (Reachable.start started).follow hf

theorem exists_reachable {c : Config} {p : Equipment} (cues : List Cue) {f : Simulation → Bool}
    (h : (run? c p cues).any f = true) : ∃ m, Reachable c p m ∧ f m = true := by
  obtain ⟨m, run, holds⟩ := (Option.any_eq_true _ _).mp h
  exact ⟨m, .of_run run, holds⟩

def report? (m : Simulation) : Option SimReport := m.result?.bind Except.toOption

theorem phase_of_report? {m : Simulation} {report : SimReport} (h : m.report? = some report) :
    m.coordinator.phase = .ended (.ok report) := by
  obtain ⟨r, hr, ok⟩ := Option.bind_eq_some_iff.mp h
  cases phase : m.coordinator.phase with
  | ended r' =>
    simp only [result?, phase, Option.some.injEq] at hr
    subst hr
    cases r' with
    | ok n => rw [Except.toOption, Option.some.injEq] at ok; rw [ok]
    | error e => cases ok
  | _ => simp [result?, phase] at hr

/-- The scheduler keeps to executions. -/
theorem Reachable.of_step {c : Config} {p : Equipment} {m m' : Simulation} (h : Reachable c p m)
    (hs : machine.Step m m') : Reachable c p m' := by
  cases hs with
  | event e offered ready =>
    have hr : m.isReady e = true := ready
    exact h.next (.event e) (by simp [next?, hr, machine])
  | @time t idle next =>
    have ht := List.min?_mem next
    rw [List.mem_filter, decide_eq_true_eq] at ht
    have hlt : m.scene.now < t := ht.2
    exact h.next (.time t) (by simp [next?, Nat.le_of_lt hlt])

inductive Turn (m : Simulation) : Simulation → Prop
  | shutdown (cause : ShutdownCause) {d i : Option Nat}
      (phase : m.coordinator.phase = .running d i) : Turn m (m.shutdown cause)
  | closeQueue (phase : m.coordinator.phase = .joining 0) : Turn m m.closeQueue
  | joinAggregator {e : Ending AggregatorReport} (phase : m.coordinator.phase = .awaitingAggregator)
      (ended : m.aggregator.ending? = some e) : Turn m (m.joinAggregator e)
  | joinPublisher {e : Ending PublisherReport} (phase : m.coordinator.phase = .awaitingPublisher)
      (watched : m.watched = some e) : Turn m (m.joinPublisher e)
  | publisher {p : Publisher} (present : m.publisher = some p) (ready : p.isReady m.scene = true) :
      Turn m { m with publisher := some (p.step m.scene).1, scene := (p.step m.scene).2 }
  | watcher {p : Publisher} {e : Ending PublisherReport} (unseen : m.watched = none)
      (present : m.publisher = some p) (ended : p.ending? = some e) : Turn m (m.stepWatcher e)
  | aggregator (ready : m.aggregator.isReady m.scene = true) :
      Turn m { m with
        aggregator := (m.aggregator.step m.scene).1
        scene := (m.aggregator.step m.scene).2 }
  | supervisor {i : Nat} {t : Supervisor} (found : m.supervisors[i]? = some t)
      (ready : t.isReady = true) :
      Turn m { m with
        supervisors := m.supervisors.setIfInBounds i (t.step m.scene).1
        scene := (t.step m.scene).2 }
  | run {i : Nat} {t : Supervisor} {station : Station} (found : m.supervisors[i]? = some t)
      (phase : t.phase = .supervising station) (ready : station.isReady (.slot i) m.scene = true) :
      Turn m { m with
        supervisors := m.supervisors.setIfInBounds i (t.stepRun (.slot i) m.scene).1
        scene := (t.stepRun (.slot i) m.scene).2 }
  | join {i left : Nat} {t : Supervisor} (phase : m.coordinator.phase = .joining left)
      (found : m.supervisors[i]? = some t) (ended : t.hasEnded = true)
      (unjoined : t.joined = false) : Turn m (m.join i t)
  | time {t : Nat} (later : m.scene.now ≤ t) :
      Turn m { m with scene := { m.scene with now := t } }
  | cancel : Turn m { m with scene := { m.scene with cancelled := true } }
  | turn (b : BrokerSwitch) :
      Turn m { m with scene := { m.scene with broker := m.scene.broker.turn b } }

theorem turn_of_shutdown {m : Simulation} {cause : ShutdownCause} (h : m.isCause cause = true) :
    Turn m (m.shutdown cause) := by
  cases hp : m.coordinator.phase with
  | running d i => exact .shutdown cause hp
  | _ => cases cause <;> simp [isCause, hp] at h

theorem turn_of_coordinator {m : Simulation} (h : m.coordinatorReady = true) :
    Turn m m.stepCoordinator := by
  unfold coordinatorReady at h
  unfold stepCoordinator
  cases hp : m.coordinator.phase with
  | joining left =>
    simp only [hp, decide_eq_true_eq] at h
    exact .closeQueue (h ▸ hp)
  | awaitingAggregator =>
    simp only [hp] at h
    obtain ⟨e, he⟩ := Option.isSome_iff_exists.mp h
    simp only [he, Option.elim_some]
    exact .joinAggregator hp he
  | awaitingPublisher =>
    simp only [hp] at h
    obtain ⟨e, he⟩ := Option.isSome_iff_exists.mp h
    simp only [he, Option.elim_some]
    exact .joinPublisher hp he
  | _ => simp [hp] at h

theorem turn_of_event {m : Simulation} {e : SimulationEvent} (h : m.isReady e = true) :
    Turn m (m.step e) := by
  cases e with
  | shutdown cause => exact turn_of_shutdown h
  | coordinator => exact turn_of_coordinator h
  | publisher =>
    obtain ⟨p, hp, hr⟩ := (Option.any_eq_true _ _).mp h
    simp only [step, hp]
    exact .publisher hp hr
  | watcher =>
    simp only [isReady, Bool.and_eq_true, Option.isNone_iff_eq_none] at h
    obtain ⟨p, hp, hr⟩ := (Option.any_eq_true _ _).mp h.2
    obtain ⟨e, he⟩ := Option.isSome_iff_exists.mp hr
    simp only [step, hp, Option.bind_some, he]
    exact .watcher h.1 hp he
  | aggregator => exact .aggregator h
  | supervisor i =>
    obtain ⟨t, ht, hr⟩ := (Option.any_eq_true _ _).mp h
    simp only [step, ht]
    exact .supervisor ht hr
  | run i =>
    obtain ⟨t, ht, hr⟩ := (Option.any_eq_true _ _).mp h
    simp only [step, ht]
    cases hp : t.phase with
    | supervising station => exact .run ht hp (by simpa [Supervisor.isRunReady, hp] using hr)
    | _ => simp [Supervisor.isRunReady, hp] at hr
  | join i =>
    simp only [isReady, canJoin] at h
    cases hp : m.coordinator.phase with
    | joining left =>
      simp only [hp] at h
      obtain ⟨t, ht, hr⟩ := (Option.any_eq_true _ _).mp h
      simp only [Bool.and_eq_true, Bool.not_eq_true'] at hr
      simp only [step, ht]
      exact .join hp ht hr.1 hr.2
    | _ => simp [hp] at h

theorem turn_of_next {m m' : Simulation} {cue : Cue} (h : m.next? cue = some m') : Turn m m' := by
  cases cue with
  | event e =>
    simp only [next?, Option.ite_none_right_eq_some, Option.some.injEq] at h
    exact h.2 ▸ turn_of_event h.1
  | time t =>
    simp only [next?, Option.ite_none_right_eq_some, Option.some.injEq] at h
    exact h.2 ▸ .time h.1
  | outside i =>
    simp only [next?, Option.some.injEq] at h
    cases i with
    | cancel => exact h ▸ .cancel
    | turn b => exact h ▸ .turn b

theorem Reachable.invariant {c : Config} {p : Equipment} {P : Simulation → Prop} {m : Simulation}
    (h : Reachable c p m) (start : ∀ {m}, Simulation.start c p = .ok m → P m)
    (turn : ∀ {m m'}, Reachable c p m → Turn m m' → P m → P m') : P m := by
  induction h with
  | start started => exact start started
  | next prior cue step ih => exact turn prior (turn_of_next step) ih

/-- What survives every turn from a reachable state on survives a list of cues. -/
theorem Reachable.keeps {c : Config} {p : Equipment} {P : Simulation → Prop} {m m' : Simulation}
    {cues : List Cue} (h : Reachable c p m) (hf : m.follow cues = some m') (hm : P m)
    (turn : ∀ {m m'}, Reachable c p m → Turn m m' → P m → P m') : P m' := by
  refine (follow_keeps (P := fun m => Reachable c p m ∧ P m) hf ⟨h, hm⟩ ?_).2
  exact fun cue step ⟨h, hm⟩ => ⟨h.next cue step, turn h (turn_of_next step) hm⟩

end SensorFleet.Simulation
