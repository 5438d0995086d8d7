import SensorFleet.Proofs.Berth.FaultBarrier
import SensorFleet.Proofs.Berth.Rhythm

/-!
How fast a slot goes on. Each reading that it sends, each that waits for room and each fault takes
up a tick, and a run that follows a crash begins a schedule of its own. So in any stretch of time
there are no more of them than whole periods, however often the slot is restarted.
-/
namespace SensorFleet

def RunPhase.toll : RunPhase → Nat
  | .sending _ _ | .ended (.crashed _) => 1
  | _ => 0

/-- A reading has entered the queue, or waits, or is lost. -/
theorem SendLook.toll_le (look : SendLook) (ticker : Ticker) (r : Reading) :
    (look.readings r).length + (look.phase ticker r).toll ≤ 1 := by
  cases look <;> simp [readings, phase, RunPhase.toll]

namespace Berth

/-- How many readings the slot has sent or waits with, and how often it has crashed. -/
def progress (o : Berth) : Nat :=
  o.sends + o.supervisor.faults.length + o.supervisor.pending?.isSome.toNat

theorem progress_of_supervising {o : Berth} {station : Station}
    (phase : o.supervisor.phase = .supervising station) :
    o.progress = o.sends + o.supervisor.slot.faults.length + station.run.phase.toll := by
  unfold progress Supervisor.faults Supervisor.pending?
  rw [phase]
  dsimp only
  unfold Station.ending? Station.pending?
  cases station.run.phase with
  | ended e => cases e <;> simp [RunPhase.toll, Nat.add_assoc]
  | created | ticking ticker | sending ticker r => simp [RunPhase.toll]

structure Paced (o : Berth) (start : Nat) : Prop where
  bound : start + o.progress * o.supervisor.interval ≤ o.scene.now
  ahead : ∀ station ticker, o.supervisor.phase = .supervising station →
    station.run.phase.ticker? = some ticker →
    start + (o.progress + 1) * o.supervisor.interval ≤ ticker.next

theorem Runs.progress {o : Berth} {station station' : Station} {log : RunLog}
    {earlier : List RunLog} {rs : List Reading} (h : o.Runs station station' log earlier rs) :
    o.run.progress + station.run.phase.toll = o.progress + rs.length + station'.run.phase.toll := by
  rw [progress_of_supervising h.phase', progress_of_supervising h.phase, h.sends, h.slot]
  omega

section Turns
variable {o o' : Berth} {start : Nat}

theorem Kept.progress_supervise (h : Kept o) (ready : o.supervisor.isReady = true) :
    o.supervise.progress = o.progress := by
  have proceeds := Supervisor.step_proceeds h.proper h.lawful (s := o.scene) ready
  have passes := Supervisor.step_passes h.proper o.scene ready
  have recorded : o.supervise.supervisor.slot.faults = o.supervisor.faults := proceeds.faults
  have faults : o.supervise.supervisor.faults = o.supervise.supervisor.slot.faults := by
    cases proceeds.goes with
    | finishes _ _ phase | launches _ _ _ _ phase | dies _ _ _ _ phase =>
      have phase : o.supervise.supervisor.phase = _ := phase
      simp [Supervisor.faults, phase, Station.ending?, Supervisor.freshRun]
  have idle : o.supervise.supervisor.pending? = none := passes.pending
  rw [progress, progress, supervise_sends, faults, recorded, idle,
    Supervisor.pending_of_ready ready]

theorem Paced.runs (h : o.Paced start) (kept : Kept o) (rhythmic : Rhythmic o)
    (pos : 0 < o.supervisor.interval) (fits : o.scene.now + o.supervisor.interval < Instant.limit)
    (ready : o.supervisor.isRunReady o.party o.scene = true) : o.run.Paced start := by
  obtain ⟨station, station', log, earlier, rs, runs⟩ := kept.runs ready
  have progress := runs.progress
  have now : o.run.scene.now = o.scene.now := runs.supply.now
  have bound := h.bound
  -- `n` periods have passed for what the slot has come to, and the next tick is one more ahead
  have conclude {n : Nat} (le : o.run.progress ≤ n)
      (bound : start + n * o.supervisor.interval ≤ o.scene.now)
      (ahead : ∀ ticker, station'.run.phase.ticker? = some ticker →
        start + (n + 1) * o.supervisor.interval ≤ ticker.next) : o.run.Paced start := by
    have monotone {n m : Nat} (le : n ≤ m) :
        start + n * o.supervisor.interval ≤ start + m * o.supervisor.interval :=
      Nat.add_le_add_left (Nat.mul_le_mul_right _ le) _
    refine ⟨?_, fun station₁ ticker at_work ticks => ?_⟩
    · rw [runs.interval, now]
      exact (monotone le).trans bound
    · cases runs.phase'.symm.trans at_work
      rw [runs.interval]
      exact (monotone (Nat.succ_le_succ le)).trans (ahead ticker ticks)
  -- a tick that is taken has passed, and was ahead of all that the slot had come to
  have due {ticker : Ticker} (ticking : station.run.phase = .ticking ticker)
      (going : o.scene.cancelled = false) : ticker.next ≤ o.scene.now ∧
        start + (o.progress + 1) * o.supervisor.interval ≤ ticker.next :=
    ⟨(Instant.le_ring _).trans (Instant.isDue_iff.mp ((runs.due ticker ticking).resolve_left
      (by simp [going]))), h.ahead station ticker runs.phase (by simp [RunPhase.ticker?, ticking])⟩
  cases runs.does with
  | stalls fault created refused leaves =>
    rw [kept.interval station runs.phase, Ticker.start?_of_fits pos fits] at refused
    cases refused
  | starts ticker created made leaves =>
    rw [kept.interval station runs.phase, Ticker.start?_of_fits pos fits] at made
    cases made
    have unsent := leaves.sent.symm.trans runs.sent
    rw [created, leaves.phase] at progress
    simp only [RunPhase.toll, List.length_nil] at progress unsent
    refine conclude (n := o.progress) (by omega) h.bound fun ticker ticks => ?_
    rw [leaves.phase] at ticks
    cases ticks
    have bound := h.bound
    rw [Nat.add_mul, Nat.one_mul]
    dsimp only
    omega
  | stops ticker ticking cancelled leaves =>
    have unsent := leaves.sent.symm.trans runs.sent
    rw [ticking, leaves.phase] at progress
    simp only [RunPhase.toll, List.length_nil] at progress unsent
    exact conclude (by omega) h.bound (by simp [leaves.phase, RunPhase.ticker?])
  | crashes ticker c ticking going draw leaves =>
    have unsent := leaves.sent.symm.trans runs.sent
    rw [ticking, leaves.phase] at progress
    simp only [RunPhase.toll, List.length_nil] at progress unsent
    obtain ⟨passed, ahead⟩ := due ticking going
    exact conclude (n := o.progress + 1) (by omega) (ahead.trans passed)
      (by simp [leaves.phase, RunPhase.ticker?])
  | samples ticker x r look ticking going draw own leaves =>
    have sent := leaves.sent.symm.trans runs.sent
    have toll := look.toll_le (ticker.advance o.scene.now) r
    rw [ticking, leaves.phase] at progress
    obtain ⟨passed, ahead⟩ := due ticking going
    refine conclude (n := o.progress + 1) (by omega) (ahead.trans passed) fun ticker' ticks => ?_
    rw [leaves.phase] at ticks
    rw [SendLook.ticker_of_phase ticks]
    obtain ⟨_, period, _⟩ := rhythmic.awaits station ticker runs.phase
      (by simp [RunPhase.ticker?, ticking])
    have next := ticker.le_next_advance passed
    rw [Nat.add_mul, Nat.one_mul]
    omega
  | retries ticker r look sending leaves =>
    have sent := leaves.sent.symm.trans runs.sent
    have toll := look.toll_le ticker r
    rw [sending, leaves.phase, RunPhase.toll] at progress
    refine conclude (n := o.progress) (by omega) h.bound fun ticker' ticks => ?_
    rw [leaves.phase] at ticks
    rw [SendLook.ticker_of_phase ticks]
    exact h.ahead station ticker runs.phase (by simp [RunPhase.ticker?, sending])

theorem Turn.unbegun (turn : Turn o o') (kept : Kept o)
    (h : o.began = none → o.supervisor.phase = .created ∧ o.progress = 0) :
    o'.began = none → o'.supervisor.phase = .created ∧ o'.progress = 0 := by
  cases turn with
  | supervisor ready =>
    intro unbegun
    cases began : o.began <;> simp [supervise, began] at unbegun
  | run ready =>
    intro unbegun
    obtain ⟨station, station', log, earlier, rs, runs⟩ := kept.runs ready
    cases (h unbegun).1.symm.trans runs.phase
  | others | cancel | time => exact h

theorem Reachable.unbegun (h : Reachable o) (unbegun : o.began = none) :
    o.supervisor.phase = .created ∧ o.progress = 0 := by
  refine h.invariant (P := fun o => o.began = none → o.supervisor.phase = .created ∧ o.progress = 0)
    (fun {o} fresh _ => ?_) (fun prior turn => turn.unbegun prior.kept) unbegun
  have sends : o.sends = 0 := by rw [sends, fresh.logs]; rfl
  have progress : o.progress = 0 := by
    rw [progress, sends, fresh.supervisor]
    rfl
  exact ⟨by rw [fresh.supervisor]; rfl, progress⟩

/-- A supervisor that goes on keeps the pace, since a run that it starts has no tick yet. -/
theorem Paced.supervises (h : o.Paced start) (kept : Kept o) (ready : o.supervisor.isReady = true) :
    o.supervise.Paced start := by
  have passes := Supervisor.step_passes kept.proper o.scene ready
  have interval : o.supervise.supervisor.interval = o.supervisor.interval :=
    (Supervisor.step_proceeds kept.proper kept.lawful (s := o.scene) ready).interval
  have now : o.supervise.scene.now = o.scene.now := passes.alike.now
  refine ⟨?_, fun station ticker phase ticks => ?_⟩
  · rw [kept.progress_supervise ready, interval, now]
    exact h.bound
  · rcases passes.next with ⟨run, started, created, _⟩ | ⟨e, ended, _⟩
    · cases started.symm.trans phase
      simp [created, RunPhase.ticker?] at ticks
    · cases ended.symm.trans phase

theorem Reachable.paced_turn (h : Reachable o) (turn : Turn o o')
    (paced : ∀ start, o.began = some start → 0 < o.supervisor.interval →
      o.scene.now + o.supervisor.interval < Instant.limit → o.Paced start) :
    ∀ start, o'.began = some start → 0 < o'.supervisor.interval →
      o'.scene.now + o'.supervisor.interval < Instant.limit → o'.Paced start := by
  intro start began pos fits
  have same := turn.same h.kept
  rw [same.interval] at pos fits
  cases turn with
  | supervisor ready =>
    have now : o.supervise.scene.now = o.scene.now :=
      (Supervisor.step_passes h.kept.proper o.scene ready).alike.now
    rw [now] at fits
    cases before : o.began with
    | some start₀ =>
      have same : start₀ = start := by simpa [supervise, before] using began
      exact same ▸ (paced start₀ before pos fits).supervises h.kept ready
    | none =>
      obtain ⟨created, idle⟩ := h.unbegun before
      have now : o.scene.now = start := by simpa [supervise, before] using began
      have fresh : o.Paced start := ⟨by simp [idle, now], by simp [created]⟩
      exact fresh.supervises h.kept ready
  | run ready =>
    have now : o.run.scene.now = o.scene.now := by
      obtain ⟨station, station', log, earlier, rs, runs⟩ := h.kept.runs ready
      exact runs.supply.now
    rw [now] at fits
    exact (paced start began pos fits).runs h.kept h.rhythmic pos fits ready
  | others spares =>
    have now : (o.enter _).scene.now = o.scene.now := spares.now
    rw [now] at fits
    have before := paced start began pos fits
    exact ⟨now ▸ before.bound, before.ahead⟩
  | cancel =>
    have before := paced start began pos fits
    exact ⟨before.bound, before.ahead⟩
  | time later =>
    have before := paced start began pos (Nat.lt_of_le_of_lt (Nat.add_le_add_right later _) fits)
    exact ⟨before.bound.trans later, before.ahead⟩

end Turns

theorem Reachable.paced {o : Berth} (h : Reachable o) {start : Nat} (began : o.began = some start)
    (pos : 0 < o.supervisor.interval)
    (fits : o.scene.now + o.supervisor.interval < Instant.limit) : o.Paced start :=
  h.invariant (P := fun o => ∀ start, o.began = some start → 0 < o.supervisor.interval →
    o.scene.now + o.supervisor.interval < Instant.limit → o.Paced start)
    (fun fresh _ began => nomatch fresh.began.symm.trans began)
    (fun prior turn paced => prior.paced_turn turn paced) start began pos fits

/-- A slot sends no more readings and has no more faults than there are whole periods since its
supervision began, with the reading that waits for room counted in; this holds across all of its
runs. Within a run the ticks are due increasing numbers of whole periods after its beginning, and
none is taken before. The slot draws at no other instants than at the ticks. -/
theorem Reachable.emission_rate {o : Berth} (h : Reachable o) {start : Nat}
    (began : o.began = some start) (pos : 0 < o.supervisor.interval)
    (fits : o.scene.now + o.supervisor.interval < Instant.limit) :
    (o.scene.sentBy o.id).length + o.supervisor.faults.length +
        o.supervisor.pending?.isSome.toNat ≤ (o.scene.now - start) / o.supervisor.interval ∧
      (∀ log ∈ o.logs, (log.began = none → log.ticks = []) ∧
        (∀ run, log.began = some run → ∃ ks : List Nat,
          log.ticks.map Tick.due = ks.map (run + · * o.supervisor.interval) ∧
            (∀ k ∈ ks, 1 ≤ k) ∧ ks.Pairwise (· < ·)) ∧
        ∀ a ∈ log.ticks, a.due ≤ a.taken) ∧
      o.scene.draws o.id = o.ticks.map Tick.taken := by
  refine ⟨?_, fun log listed => ?_, h.draws⟩
  · have bound := (h.paced began pos fits).bound
    rw [h.tallied.entered, Nat.le_div_iff_mul_le pos]
    unfold progress at bound
    omega
  · have keeps := h.rhythmic.keeps log listed
    exact ⟨keeps.untaken, fun run began => keeps.dues pos began, keeps.due_le⟩

/-- A slot whose first run crashes at its second tick and whose second run waits with its first
reading: all of the three periods that have passed are taken up. -/
theorem emission_rate_attained : ∃ o, Reachable o ∧ o.began = some 0 ∧ 0 < o.supervisor.interval ∧
    o.scene.now + o.supervisor.interval < Instant.limit ∧ o.scene.now = 3 * o.supervisor.interval ∧
    o.supervisor.faults.length = 1 ∧ o.supervisor.pending?.isSome = true ∧
    (o.scene.sentBy o.id).length + o.supervisor.faults.length +
      o.supervisor.pending?.isSome.toNat ≤ (o.scene.now - 0) / o.supervisor.interval := by
  let isTight (o : Berth) : Bool := o.began = some 0 ∧ 0 < o.supervisor.interval ∧
    o.scene.now + o.supervisor.interval < Instant.limit ∧ o.scene.now = 3 * o.supervisor.interval ∧
    o.supervisor.faults.length = 1 ∧ o.supervisor.pending?.isSome = true
  obtain ⟨o, leads, tight⟩ := exists_played 10000000 1 frail
    [.supervisor, .run, .time 10000000, .run, .time 20000000, .run, .supervisor, .run,
      .time 30000000, .run] isTight (by decide)
  obtain ⟨began, pos, fits, now, faults, waits⟩ := of_decide_eq_true tight
  have reachable : Reachable o := ⟨_, setUp_fresh _ _ _, leads⟩
  exact ⟨o, reachable, began, pos, fits, now, faults, waits,
    (reachable.emission_rate began pos fits).1⟩

end Berth
end SensorFleet
