import SensorFleet.Time.Duration
/-!
Instants of a run as numbers of nanoseconds since its start, with the two kinds of timers: alarms,
which ring at whole milliseconds, and tickers, which skip the ticks that they missed.
-/
namespace SensorFleet

namespace Instant

/-- Instants from here on cannot be represented. -/
def limit : Nat := UInt64.size / 2 * 1000000000

def ofMillis (ms : Nat) : Nat := ms * 1000000

def millis (t : Nat) : Nat := t / 1000000

/-- The instant `d` after `t`, if it can be represented. -/
def after? (t d : Nat) : Option Nat := if t + d < limit then some (t + d) else none

/-- The first whole millisecond not before `t`: an alarm for `t` rings then. -/
def ring (t : Nat) : Nat := (t + 999999) / 1000000 * 1000000

/-- Whether an alarm for `t` has rung by `now`. -/
def isDue (t now : Nat) : Bool := ring t ≤ now

theorem le_ring (t : Nat) : t ≤ ring t := by unfold ring; omega

theorem ring_lt (t : Nat) : ring t < t + 1000000 := by unfold ring; omega

theorem isDue_iff {t now : Nat} : isDue t now = true ↔ ring t ≤ now := by simp [isDue]

/-- Whether an alarm that may be set has rung. -/
def hasRung (alarm : Option Nat) (now : Nat) : Bool := alarm.any fun t => isDue t now

theorem after?_eq_some {t d a : Nat} : after? t d = some a ↔ t + d < limit ∧ t + d = a := by
  simp only [after?, Option.ite_none_right_eq_some, Option.some.injEq]

theorem le_of_after {t d a : Nat} (h : after? t d = some a) : t ≤ a :=
  (after?_eq_some.mp h).2 ▸ Nat.le_add_right t d

theorem lt_limit_of_after {t d a : Nat} (h : after? t d = some a) : a < limit := by
  obtain ⟨fits, rfl⟩ := after?_eq_some.mp h
  exact fits

theorem ring_mono {t t' : Nat} (h : t ≤ t') : ring t ≤ ring t' :=
  Nat.mul_le_mul_right _ (Nat.div_le_div_right (Nat.add_le_add_right h _))

theorem lt_ring_of_not_hasRung {a now : Nat} (h : hasRung (some a) now = false) : now < ring a := by
  rw [hasRung, Option.any_some] at h
  refine Nat.lt_of_not_le fun due => ?_
  rw [isDue_iff.mpr due] at h
  cases h

theorem ring_of_whole {t : Nat} (h : 1000000 ∣ t) : ring t = t := by
  obtain ⟨ms, rfl⟩ := h
  unfold ring
  omega

theorem ring_ring (t : Nat) : ring (ring t) = ring t := ring_of_whole (Nat.dvd_mul_left _ _)

end Instant

/-- Why a ticker could not be made. -/
inductive TickerFault
  | outOfRange
  | zeroPeriod
deriving DecidableEq, Repr

def TickerFault.message : TickerFault → String
  | .outOfRange => "overflow when adding duration to instant"
  | .zeroPeriod => "`period` must be non-zero."

/-- A repeating timer: the instant of its next tick and its period. -/
structure Ticker where
  next : Nat
  period : Nat
deriving DecidableEq, Repr, Inhabited

namespace Ticker

/-- A ticker whose first tick is one period from now. -/
def start? (now period : Nat) : Except TickerFault Ticker :=
  match Instant.after? now period with
  | none => .error .outOfRange
  | some next => if period = 0 then .error .zeroPeriod else .ok ⟨next, period⟩

def isDue (t : Ticker) (now : Nat) : Bool := Instant.isDue t.next now

/-- Lateness up to this much is caught up, more is skipped over. -/
def tolerance : Nat := Duration.ofMillis 5

/-- The ticker after its pending tick was taken at `now`. -/
def advance (t : Ticker) (now : Nat) : Ticker :=
  if t.next + tolerance < now then
    { t with next := now + t.period - (now - t.next) % t.period }
  else { t with next := t.next + t.period }

theorem start?_of_never {now period : Nat} (h : Instant.after? now period = none) :
    start? now period = .error .outOfRange := by
  simp only [start?, h]

theorem never_of_fault {now period : Nat} {fault : TickerFault} (pos : 0 < period)
    (h : start? now period = .error fault) : Instant.after? now period = none := by
  unfold start? at h
  split at h
  next never => exact never
  next => simp [Nat.ne_of_gt pos] at h

theorem eq_of_start? {now period : Nat} {ticker : Ticker} (h : start? now period = .ok ticker) :
    ticker = ⟨now + period, period⟩ := by
  unfold start? at h
  split at h
  next => cases h
  next next fits =>
    obtain ⟨_, rfl⟩ := Instant.after?_eq_some.mp fits
    split at h
    · cases h
    · injection h with h
      exact h.symm

/-- A tick that is taken in time is followed by the next one. -/
theorem advance_in_time (ticker : Ticker) :
    ticker.advance ticker.next = ⟨ticker.next + ticker.period, ticker.period⟩ := by
  simp [advance]

end Ticker
end SensorFleet
