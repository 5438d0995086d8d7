import SensorFleet.Proofs.Fleet.Lifecycle
import SensorFleet.Proofs.Fleet.Progress

/-!
The primary queue without its reader. The aggregator crashes before it has looked at the queue or
not at all; so when it has crashed, nothing was ever taken from the queue, no writer that waits there
is ever woken, and nothing has entered the fan-out.
-/
namespace SensorFleet

theorem Channel.buffer_readerBack (q : ReadingQueue) (who : Party) (parked : Bool) :
    (q.readerBack who parked).buffer = q.buffer := by
  unfold readerBack
  split <;> rfl

namespace Aggregator

def isUnused (a : Aggregator) : Bool :=
  match a.phase with
  | .created | .ended (.crashed _) => true
  | _ => false

theorem isUnused_of_crashed {a : Aggregator} {e : Crash} (h : a.ending? = some (.crashed e)) :
    a.isUnused = true := by
  unfold ending? at h
  unfold isUnused
  split at h
  next he =>
    injection h with h
    rw [he, h]
  next => cases h

/-- The aggregator crashes at its start or not at all. -/
theorem step_unused {a : Aggregator} {s : Scene} (ready : a.isReady s = true)
    (unused : (a.step s).1.isUnused = true) : a.isUnused = true ∧ (a.step s).2 = s := by
  cases phase : a.phase with
  | created =>
    refine ⟨by simp [isUnused, phase], ?_⟩
    simp only [step, phase, start] at unused ⊢
    split
    · rfl
    next started => simp [started, isUnused] at unused
  | waiting ticker parked =>
    simp only [step, phase] at unused
    split at unused
    · cases unused
    · split at unused
      · cases unused
      · cases looked : s.recv .primary .aggregator parked with
        | mk look s₁ =>
          rw [looked] at unused
          cases look with
          | item r =>
            have waiting := receive_phase { a with phase := .waiting ticker false } s₁ r
            simp [isUnused, waiting] at unused
          | ended | waits => cases unused
  | ended e => simp [isReady, phase] at ready

end Aggregator

namespace Station

/-- A run that was not woken by anybody wakes nobody. -/
theorem Moves.wakes_nobody {t t' : Station} {who : Party} {s s' : Scene} (h : t.Moves who s t' s')
    (opened : s.primary.isClosed = false) (asleep : s.primary.writable.woken = []) :
    s'.primary.writable.woken = [] := by
  have back : (s.primary.writerBack who t.pending?.isSome).writable.woken = [] := by
    unfold Channel.writerBack
    split <;> simp [asleep, Signal.resume]
  cases h with
  | rests alike => rw [alike.primary, asleep]
  | enters r own _ alike =>
    rw [alike.primary]
    exact back
  | parks r own _ full alike =>
    rw [alike.primary]
    exact back
  | refused closed => simp [opened] at closed

theorem Moves.aside {t t' : Station} {who : Party} {s s' : Scene} (h : t.Moves who s t' s')
    (opened : s.primary.isClosed = false) : s'.fanout = s.fanout ∧ s'.now = s.now := by
  cases h with
  | rests alike => exact ⟨alike.fanout, alike.now⟩
  | enters r own _ alike => exact ⟨alike.fanout, alike.now⟩
  | parks r own _ full alike => exact ⟨alike.fanout, alike.now⟩
  | refused closed => simp [opened] at closed

end Station

/-- At an empty fan-out a publisher with no reading at hand takes none. -/
theorem Publisher.Moves.idles {p p' : Publisher} {s s' : Scene} (h : p.Moves s p' s')
    (stage : p.stage = .fanout) (empty : s.fanout.buffer = []) (idle : p.atHand? = none) :
    s'.primary = s.primary ∧ s'.fanout.buffer = [] ∧ p'.atHand? = none := by
  cases h with
  | rests alike parked hand => exact ⟨alike.primary, alike.fanout ▸ empty, hand.trans idle⟩
  | turns alike hand hand' =>
    rw [stage, Scene.abandonRecv_queue] at alike
    refine ⟨alike.primary, ?_, hand'⟩
    rw [alike.fanout]
    change (if _ then _ else _ : ReadingQueue).buffer = []
    split <;> exact empty
  | takes r rest buffer =>
    rw [stage] at buffer
    exact absurd (empty.symm.trans buffer) (by simp)
  | settles r hand => simp [idle] at hand
  | stops buffer closed woken hand alike ended report =>
    rw [stage] at alike
    refine ⟨alike.primary, ?_, by simp [atHand?, ended]⟩
    rw [alike.fanout]
    exact (Channel.buffer_readerBack s.fanout .publisher p.isParked).trans empty
  | parks buffer opened woken hand alike hand' =>
    rw [stage] at alike
    refine ⟨alike.primary, ?_, hand'⟩
    rw [alike.fanout]
    exact (Channel.buffer_readerBack s.fanout .publisher p.isParked).trans empty

namespace Simulation

structure Unread (m : Simulation) : Prop where
  asleep : m.scene.primary.isClosed = false → m.scene.primary.writable.woken = []
  empty : m.scene.fanout.buffer = []
  idle : ∀ q, m.publisher = some q → q.atHand? = none

theorem Unread.keep {m m' : Simulation} (h : Unread m)
    (primary : m'.scene.primary = m.scene.primary)
    (fanout : m'.scene.fanout.buffer = m.scene.fanout.buffer)
    (publisher : m'.publisher = m.publisher) : Unread m' :=
  ⟨primary ▸ h.asleep, fanout.trans h.empty, publisher ▸ h.idle⟩

theorem Turn.isUnused {m m' : Simulation} (turn : Turn m m')
    (unused : m'.aggregator.isUnused = true) : m.aggregator.isUnused = true := by
  cases turn with
  | joinAggregator phase ended => rwa [(joinAggregator_takes m _).keeps.aggregator] at unused
  | joinPublisher phase watched => rwa [(joinPublisher_takes m _).keeps.aggregator] at unused
  | aggregator ready => exact (Aggregator.step_unused ready unused).1
  | @join i left t phase found ended unjoined =>
    rwa [(join_joins phase ended i).aggregator] at unused
  | _ => exact unused

theorem Turn.unread {c : Config} {m m' : Simulation} (turn : Turn m m') (staffed : Staffed c m)
    (ordered : Ordered m) (waits : Waits m) (unused : m'.aggregator.isUnused = true)
    (h : Unread m) : Unread m' := by
  cases turn with
  | shutdown cause phase => exact h.keep rfl rfl rfl
  | closeQueue phase =>
    rw [closeQueue_eq (ordered.opened_of_joining phase)]
    exact ⟨nofun, h.empty, h.idle⟩
  | @joinAggregator e phase ended =>
    have takes := joinAggregator_takes m e
    have alike := takes.scene
    split at alike
    · exact h.keep alike.primary (by rw [alike.fanout]; rfl) takes.keeps.publisher
    · exact h.keep alike.primary (by rw [alike.fanout]) takes.keeps.publisher
  | @joinPublisher e phase watched =>
    have takes := joinPublisher_takes m e
    obtain ⟨b, alike⟩ := takes.scene
    exact h.keep alike.primary (by rw [alike.fanout]) takes.keeps.publisher
  | @publisher q present ready =>
    obtain ⟨primary, empty, idle⟩ := (Publisher.step_moves q m.scene ready).idles
      (waits.stage q present) h.empty (h.idle q present)
    refine ⟨primary ▸ h.asleep, empty, ?_⟩
    intro q' hq
    injection hq with hq
    exact hq ▸ idle
  | @watcher q e unseen present ended =>
    have alike := stepWatcher_alike m e
    exact h.keep alike.primary (by rw [alike.fanout]; rfl) rfl
  | aggregator ready =>
    obtain ⟨_, same⟩ := Aggregator.step_unused ready unused
    exact h.keep (congrArg Scene.primary same) (by rw [same]) rfl
  | @supervisor i t found ready =>
    have alike := (Supervisor.step_passes (staffed.member i t found).1 m.scene ready).alike
    exact h.keep alike.primary (by rw [alike.fanout]) rfl
  | @run i t station found phase ready =>
    have moves := Supervisor.stepRun_moves (staffed.member i t found).1 phase ready
    have opened := ordered.opened found (Supervisor.not_hasEnded_of_supervising phase)
    rw [Supervisor.stepRun_eq phase]
    refine ⟨fun _ => moves.wakes_nobody opened (h.asleep opened), ?_, h.idle⟩
    rw [(moves.aside opened).1]
    exact h.empty
  | @join i left t phase found ended unjoined =>
    have joins := join_joins phase ended i
    exact h.keep joins.alike.primary (by rw [joins.alike.fanout]) joins.publisher
  | time | cancel | turn => exact h.keep rfl rfl rfl

/-- As long as the aggregator has not begun, and ever after when it has crashed. -/
theorem Reachable.unread {c : Config} {p : Equipment} {m : Simulation} (h : Reachable c p m)
    (unused : m.aggregator.isUnused = true) : Unread m := by
  revert unused
  refine h.invariant (P := fun m => m.aggregator.isUnused = true → Unread m) ?_ ?_
  · intro m started _
    have hs := start_started started
    refine ⟨fun _ => by rw [hs.primary]; rfl, by rw [hs.fanout]; rfl, fun q present => ?_⟩
    obtain ⟨_, created, _⟩ := hs.publisher_created present
    simp [Publisher.atHand?, created]
  · intro m m' prior turn hm unused
    exact turn.unread prior.staffed prior.ordered prior.waits unused (hm (turn.isUnused unused))

/-- The run of a slot holds a reading back. -/
def Holds (m : Simulation) (i : Nat) (r : Reading) : Prop :=
  ∃ t, m.supervisors[i]? = some t ∧ t.pending? = some r

section Stranded
variable {c : Config} {p : Equipment} {m m' : Simulation} {i : Nat} {r : Reading}

/-- A run that waits for room when the aggregator has crashed is never woken. -/
theorem Reachable.not_isRunReady (h : Reachable c p m) (unused : m.aggregator.isUnused = true)
    {t : Supervisor} {station : Station} (found : m.supervisors[i]? = some t)
    (phase : t.phase = .supervising station) (pending : station.pending?.isSome = true) :
    station.isReady (.slot i) m.scene = false := by
  rw [Bool.eq_false_iff]
  intro ready
  have opened := h.ordered.opened found (Supervisor.not_hasEnded_of_supervising phase)
  have woken := Station.woken_of_isReady ready pending
  simp [Channel.isWriterWoken, Signal.isWoken, (h.unread unused).asleep opened] at woken

theorem Turn.holds (turn : Turn m m') (h : Reachable c p m)
    (unused : m.aggregator.isUnused = true) (holds : m.Holds i r) : m'.Holds i r := by
  obtain ⟨t, found, pending⟩ := holds
  rcases turn.supervisors with hs | ⟨j, u, u', hu, turns, hs⟩
  · exact ⟨t, hs ▸ found, pending⟩
  · by_cases hj : j = i
    · subst hj
      rw [found, Option.some.injEq] at hu
      subst hu
      cases turns with
      | steps ready => simp [Supervisor.pending_of_ready ready] at pending
      | @runs station phase ready =>
        have asleep := h.not_isRunReady unused found phase (by
          simpa [Supervisor.pending?, phase] using Option.isSome_of_mem pending)
        simp [asleep] at ready
      | joins ended unjoined =>
        obtain ⟨e, he⟩ := Supervisor.phase_of_hasEnded ended
        simp [Supervisor.pending?, he] at pending
    · exact ⟨t, by rw [hs, Array.getElem?_setIfInBounds_ne hj, found], pending⟩

/-- It waits at an open and full queue, and the run has not come to its end. -/
theorem Reachable.held (h : Reachable c p m) (unused : m.aggregator.isUnused = true)
    (holds : m.Holds i r) :
    m.scene.primary.isClosed = false ∧ m.scene.primary.isFull = true ∧ m.result? = none := by
  obtain ⟨t, found, pending⟩ := holds
  have live : t.hasEnded = false := by
    rw [Bool.eq_false_iff]
    intro ended
    obtain ⟨e, he⟩ := Supervisor.phase_of_hasEnded ended
    simp [Supervisor.pending?, he] at pending
  have opened := h.ordered.opened found live
  refine ⟨opened, ?_, ?_⟩
  · by_contra room
    obtain ⟨w, _, woken⟩ := h.waits.attended.primary.writer_awake
      ((sending_slot found).mpr (by simp [pending])) (by simpa [Channel.isFull] using room)
    simp [Channel.isWriterWoken, Signal.isWoken, (h.unread unused).asleep opened] at woken
  · cases phase : m.coordinator.phase with
    | ended result =>
      have past := h.ordered.ended (by rw [phase]; rfl) found
      simp [past] at live
    | _ => simp [result?, phase]

theorem Reachable.holds_for_ever (h : Reachable c p m) {e : Crash}
    (crashed : m.aggregator.ending? = some (.crashed e)) (holds : m.Holds i r) {cues : List Cue}
    {m' : Simulation} (hf : m.follow cues = some m') :
    m'.Holds i r ∧ m'.scene.primary.isClosed = false ∧ m'.scene.primary.isFull = true ∧
      m'.result? = none := by
  have kept : m'.aggregator.ending? = some (.crashed e) ∧ m'.Holds i r :=
    h.keeps (P := fun m => m.aggregator.ending? = some (.crashed e) ∧ m.Holds i r) hf
      ⟨crashed, holds⟩ fun prior turn hm =>
        ⟨turn.crashed hm.1, turn.holds prior (Aggregator.isUnused_of_crashed hm.1) hm.2⟩
  exact ⟨kept.2, (h.follow hf).held (Aggregator.isUnused_of_crashed kept.1) kept.2⟩

end Stranded
end Simulation
end SensorFleet
