import SensorFleet.Proofs.Fleet.LostReader

/-!
The steps that the tasks have left after the cancellation, when no producer waits for room and
nothing reaches the publisher any more. A supervisor starts no run, a run samples nothing, and the
publisher takes the ticks that are due; each step leaves fewer.
-/
namespace SensorFleet

section Slots
variable {s : Scene}

/-- How many steps a run has left after the cancellation, if it does not wait for room. -/
def Station.stepsLeft (t : Station) : Nat :=
  match t.run.phase with
  | .created => 2
  | .ticking _ => 1
  | .sending _ _ | .ended _ => 0

/-- After the cancellation a run samples nothing any more. -/
theorem Station.step_left {t : Station} {who : Party} (ready : t.isReady who s = true)
    (unheld : t.pending? = none) (cancelled : s.cancelled = true) :
    (t.step who s).1.stepsLeft < t.stepsLeft ∧ (t.step who s).1.pending? = none := by
  unfold step stepsLeft
  cases phase : t.run.phase with
  | created =>
    cases Ticker.start? s.now t.run.interval <;> simp [endWith, enter, pending?]
  | ticking ticker => simp [cancelled, endWith, pending?]
  | sending ticker r => simp [pending?, phase] at unheld
  | ended e => simp [isReady, phase] at ready

namespace Supervisor

/-- How many steps a supervisor and its run have left after the cancellation, the coordinator's
that joins it included. -/
def stepsLeft (t : Supervisor) : Nat :=
  match t.phase with
  | .created => 2
  | .supervising station => station.stepsLeft + 2
  | .ended _ => if t.joined then 0 else 1

theorem stepsLeft_of_hasEnded {t : Supervisor} (h : t.hasEnded = true) : t.stepsLeft ≤ 1 := by
  obtain ⟨e, he⟩ := phase_of_hasEnded h
  simp only [stepsLeft, he]
  split <;> omega

theorem finish_hasEnded (t : Supervisor) (s : Scene) : (t.finish s).1.hasEnded = true := by
  unfold finish
  rw [Slot.stop_eq]
  rfl

theorem launch_hasEnded (t : Supervisor) (cancelled : s.cancelled = true) :
    (t.launch s).1.hasEnded = true := by
  unfold launch
  rw [if_pos cancelled]
  exact t.finish_hasEnded s

theorem afterCrash_hasEnded (t : Supervisor) (c : Crash) (cancelled : s.cancelled = true) :
    (t.afterCrash s c).1.hasEnded = true := by
  unfold afterCrash
  cases t.slot.recordFault c.message with
  | error e => rfl
  | ok slot =>
    dsimp only
    rw [if_pos (by rw [Scene.count_eq]; exact cancelled)]
    exact finish_hasEnded _ _

theorem step_hasEnded {t : Supervisor} (ready : t.isReady = true) (cancelled : s.cancelled = true) :
    (t.step s).1.hasEnded = true := by
  unfold isReady at ready
  unfold step
  cases phase : t.phase with
  | created => exact t.launch_hasEnded cancelled
  | supervising station =>
    rw [phase] at ready
    obtain ⟨e, he⟩ := Option.isSome_iff_exists.mp ready
    have counted : (s.count (.producerStopped t.slot.id)).cancelled = true := by
      rw [Scene.count_eq]
      exact cancelled
    simp only [he, afterRun]
    cases e with
    | returned result => cases result <;> exact finish_hasEnded _ _
    | crashed c => exact afterCrash_hasEnded _ c counted
  | ended e => simp [phase] at ready

theorem step_left {t : Supervisor} (ready : t.isReady = true) (cancelled : s.cancelled = true) :
    (t.step s).1.stepsLeft < t.stepsLeft := by
  have ended := stepsLeft_of_hasEnded (step_hasEnded ready cancelled)
  have left : 2 ≤ t.stepsLeft := by
    unfold isReady at ready
    unfold stepsLeft
    cases phase : t.phase with
    | created => exact Nat.le_refl 2
    | supervising station => exact Nat.le_add_left 2 _
    | ended e => simp [phase] at ready
  omega

end Supervisor
end Slots

namespace Publisher
variable {p : Publisher} {s : Scene}

def ticker? (p : Publisher) : Option Ticker :=
  match p.phase with
  | .waiting ticker _ | .publishing ticker _ _ _ _ => some ticker
  | _ => none

def Ticks (p : Publisher) : Prop := ∀ ticker, p.ticker? = some ticker → 0 < ticker.period

theorem settle_ticker {ticker k : Ticker} {r : Reading} {outcome : PublishOutcome}
    (h : (p.settle s ticker r outcome).1.ticker? = some k) : k = ticker := by
  unfold settle at h
  cases outcome <;> exact (Option.some.inj h).symm

theorem conclude_ticker {ticker k : Ticker} {r : Reading} {started : Nat} {answer : Answer}
    (h : (p.conclude s ticker r started answer).1.ticker? = some k) : k = ticker := by
  unfold conclude at h
  cases answer with
  | crashed c => cases h
  | accepted | failed e => exact settle_ticker h

theorem publish_ticker {ticker k : Ticker} {r : Reading}
    (h : (p.publish s ticker r).1.ticker? = some k) : k = ticker := by
  unfold publish at h
  split at h
  · exact settle_ticker h
  · split at h
    · exact settle_ticker h
    · dsimp only at h
      split at h
      · exact conclude_ticker h
      · exact (Option.some.inj h).symm

theorem period_advance (ticker : Ticker) (now : Nat) :
    (ticker.advance now).period = ticker.period := by
  unfold Ticker.advance
  split <;> rfl

theorem stepWaiting_ticker {ticker k : Ticker} {parked : Bool}
    (phase : p.phase = .waiting ticker parked)
    (h : (p.stepWaiting s ticker parked).1.ticker? = some k) : k.period = ticker.period := by
  unfold stepWaiting at h
  dsimp only at h
  split at h
  · exact congrArg Ticker.period (Option.some.inj h).symm
  · split at h
    · have same : p.ticker? = some ticker := by simp [ticker?, phase]
      exact congrArg Ticker.period (Option.some.inj (same.symm.trans h)).symm
    · split at h
      · exact congrArg Ticker.period (Option.some.inj h).symm
      · split at h
        · rw [← Option.some.inj h, period_advance]
        · split at h
          · exact congrArg Ticker.period (publish_ticker h)
          · cases h
          · exact congrArg Ticker.period (Option.some.inj h).symm

theorem stepPublishing_ticker {ticker k : Ticker} {r : Reading} {pending : PendingPublish}
    {started : Nat} {timeout : Option Nat}
    (phase : p.phase = .publishing ticker r pending started timeout)
    (h : (p.stepPublishing s ticker r pending started timeout).1.ticker? = some k) : k = ticker := by
  have same : p.ticker? = some ticker := by simp [ticker?, phase]
  unfold stepPublishing at h
  split at h
  · exact conclude_ticker h
  · split at h
    · exact conclude_ticker h
    · split at h
      · exact (Option.some.inj (same.symm.trans h)).symm
      · split at h
        · exact settle_ticker h
        · exact (Option.some.inj (same.symm.trans h)).symm

theorem start?_period {now period : Nat} {ticker : Ticker}
    (h : Ticker.start? now period = .ok ticker) : 0 < period ∧ ticker = ⟨now + period, period⟩ := by
  unfold Ticker.start? Instant.after? at h
  split at h
  · cases h
  next next after =>
    split at h
    · cases h
    next nonzero =>
      simp only [Option.ite_none_right_eq_some, Option.some.injEq] at after
      rw [after.2]
      exact ⟨Nat.pos_of_ne_zero nonzero, (Except.ok.inj h).symm⟩

theorem step_ticks (h : p.Ticks) : (p.step s).1.Ticks := by
  intro k hk
  unfold step at hk
  cases phase : p.phase with
  | created =>
    simp only [phase, start] at hk
    split at hk
    · cases hk
    next started =>
      obtain ⟨pos, rfl⟩ := start?_period started
      exact Option.some.inj hk ▸ pos
  | waiting ticker parked =>
    simp only [phase] at hk
    rw [stepWaiting_ticker phase hk]
    exact h ticker (by simp [ticker?, phase])
  | publishing ticker r pending started timeout =>
    simp only [phase] at hk
    rw [stepPublishing_ticker phase hk]
    exact h ticker (by simp [ticker?, phase])
  | ended e => simp [phase, ticker?] at hk

/-- The look at the queue that is due if the publisher has not parked there or was woken. -/
def looksLeft (parked : Bool) (q : ReadingQueue) : Nat :=
  if parked && !q.isReaderWoken .publisher then 0 else 1

theorem looksLeft_le (parked : Bool) (q : ReadingQueue) : looksLeft parked q ≤ 1 := by
  unfold looksLeft
  split <;> omega

@[simp] theorem looksLeft_false (q : ReadingQueue) : looksLeft false q = 1 := rfl

/-- How many steps a publisher has left after the cancellation if nothing reaches it. A look at the
queue may come after each other step. -/
def stepsLeft (p : Publisher) (s : Scene) : Nat :=
  match p.phase with
  | .created => 9
  | .waiting ticker parked =>
    1 + (if p.draining then 0 else 2) + (if p.deadline = .unset then 2 else 0) +
      (if p.abandoned then 0 else 2) + 2 * (s.now + 1 - ticker.next) +
      looksLeft parked (s.queue p.stage)
  | .publishing _ _ _ _ _ | .ended _ => 0

theorem next_lt_advance {ticker : Ticker} {now : Nat} (pos : 0 < ticker.period)
    (due : ticker.isDue now = true) :
    ticker.next ≤ now ∧ ticker.next < (ticker.advance now).next := by
  have next_le := Instant.le_ring ticker.next
  have rung : Instant.ring ticker.next ≤ now := Instant.isDue_iff.mp due
  refine ⟨by omega, ?_⟩
  unfold Ticker.advance
  split
  · have rem_lt := Nat.mod_lt (now - ticker.next) pos
    dsimp only
    omega
  · dsimp only
    omega

theorem now_setQueue (s : Scene) (stage : Stage) (q : ReadingQueue) :
    (s.setQueue stage q).now = s.now := by
  cases stage <;> rfl

theorem now_abandonRecv (s : Scene) (stage : Stage) (who : Party) (parked : Bool) :
    (s.abandonRecv stage who parked).now = s.now := by
  cases parked <;> cases stage <;> rfl

theorem not_woken_readerParked {q : ReadingQueue} {who : Party} {parked : Bool}
    (asleep : parked = false → q.isReaderWoken who = false) :
    ((q.readerBack who parked).readerParked who).isReaderWoken who = false := by
  cases parked with
  | false => exact asleep rfl
  | true =>
    simp [Channel.readerBack, Channel.readerParked, Channel.isReaderWoken, Signal.isWoken,
      Signal.park, Signal.resume]

/-- If nothing else is due, it goes on because it has not parked yet or was woken. -/
theorem looksLeft_of_isReady {ticker : Ticker} {parked : Bool}
    (phase : p.phase = .waiting ticker parked) (ready : p.isReady s = true)
    (drains : (s.cancelled && !p.draining) = false) (seen : p.seesCancellation s = false)
    (passed : p.deadlinePassed s = false) (due : ticker.isDue s.now = false) :
    looksLeft parked (s.queue p.stage) = 1 := by
  simp only [isReady, phase, drains, seen, passed, due, Bool.false_or, Bool.or_eq_true,
    Bool.not_eq_true'] at ready
  rcases ready with fresh | woken
  · rw [fresh, looksLeft_false]
  · simp [looksLeft, woken]

theorem stepWaiting_left {ticker : Ticker} {parked : Bool}
    (phase : p.phase = .waiting ticker parked) (pos : 0 < ticker.period)
    (ready : p.isReady s = true) (empty : (s.queue p.stage).buffer = [])
    (asleep : parked = false → (s.queue p.stage).isReaderWoken .publisher = false) :
    (p.stepWaiting s ticker parked).1.stepsLeft (p.stepWaiting s ticker parked).2 <
      p.stepsLeft s := by
  have left : p.stepsLeft s = 1 + (if p.draining then 0 else 2) +
      (if p.deadline = .unset then 2 else 0) + (if p.abandoned then 0 else 2) +
      2 * (s.now + 1 - ticker.next) + looksLeft parked (s.queue p.stage) := by
    simp only [stepsLeft, phase]
  have now := now_abandonRecv s p.stage .publisher parked
  rw [left]
  unfold stepWaiting
  dsimp only
  split
  next drains =>
    simp only [Bool.and_eq_true, Bool.not_eq_true'] at drains
    simp only [stepsLeft, Scene.log, Scene.record, now, drains.2, if_true, Bool.false_eq_true,
      if_false, looksLeft_false]
    omega
  next drained =>
    split
    next sees =>
      simp only [seesCancellation, Bool.and_eq_true, decide_eq_true_eq] at sees
      simp only [stepsLeft, setDeadline, phase, sees.2, if_true, reduceCtorEq, if_false]
      omega
    next seen =>
      split
      next passed =>
        simp only [stepsLeft, Scene.log, Scene.record, now, going_of_deadlinePassed passed,
          if_true, Bool.false_eq_true, if_false, looksLeft_false]
        omega
      next waits =>
        split
        next due =>
          obtain ⟨next_le, ahead⟩ := next_lt_advance pos due
          have now' : ((s.abandonRecv p.stage .publisher parked).count
              (.brokerConnection s.broker.isConnected)).now = s.now := by
            rw [Scene.count_eq]
            exact now
          simp only [stepsLeft, Scene.log, Scene.record, now', looksLeft_false]
          omega
        next undue =>
          -- the look that is left is made now, and finds the queue empty
          rw [Bool.not_eq_true] at drained seen waits undue
          have looks := looksLeft_of_isReady phase ready drained seen waits undue
          have hr := s.receives p.stage .publisher parked
          generalize s.recv p.stage .publisher parked = look at hr
          cases hr with
          | item buffer => simp [empty] at buffer
          | ended buffer closed =>
            simp only [finish, stepsLeft]
            omega
          | waits buffer opened =>
            have parks : looksLeft true (((s.queue p.stage).readerBack .publisher parked).readerParked
                .publisher) = 0 := by
              simp [looksLeft, not_woken_readerParked asleep]
            simp only [stepsLeft, Scene.queue_setQueue, now_setQueue, looks, parks]
            omega

/-- At an empty queue every step of a publisher leaves it fewer. -/
theorem step_left (h : p.Ticks) (ready : p.isReady s = true) (idle : p.atHand? = none)
    (empty : (s.queue p.stage).buffer = [])
    (asleep : p.isParked = false → (s.queue p.stage).isReaderWoken .publisher = false) :
    (p.step s).1.stepsLeft (p.step s).2 < p.stepsLeft s := by
  cases phase : p.phase with
  | created =>
    simp only [step, phase, start]
    cases started : Ticker.start? s.now p.statsInterval with
    | error e => simp [stepsLeft, phase]
    | ok ticker =>
      obtain ⟨pos, rfl⟩ := start?_period started
      have now : ((s.log (.publisherStarting p.subjectRoot)).count
          (.brokerConnection s.broker.isConnected)).now = s.now := by
        rw [Scene.count_eq]
        rfl
      simp only [stepsLeft, phase, now, looksLeft_false]
      split <;> split <;> split <;> omega
  | waiting ticker parked =>
    simp only [step, phase]
    refine stepWaiting_left phase (h ticker (by simp [ticker?, phase])) ready empty ?_
    simpa [isParked, phase] using asleep
  | publishing ticker r pending started timeout => simp [atHand?, phase] at idle
  | ended e => simp [isReady, phase] at ready

theorem stepsLeft_of_ending {e : Ending PublisherReport} (h : p.ending? = some e) (s : Scene) :
    p.stepsLeft s = 0 := by
  unfold ending? at h
  unfold stepsLeft
  split at h
  next he => rw [he]
  next => cases h

/-- When its queue is touched, a publisher may look once more. -/
theorem stepsLeft_le {s' : Scene} (now : s'.now = s.now) : p.stepsLeft s' ≤ p.stepsLeft s + 1 := by
  unfold stepsLeft
  cases p.phase with
  | waiting ticker parked =>
    have look := looksLeft_le parked (s'.queue p.stage)
    dsimp only
    rw [now]
    omega
  | _ => exact Nat.le_add_right _ _

theorem stepsLeft_congr {s' : Scene} (now : s'.now = s.now)
    (queue : s'.queue p.stage = s.queue p.stage) : p.stepsLeft s' = p.stepsLeft s := by
  unfold stepsLeft
  rw [now, queue]

end Publisher

end SensorFleet
