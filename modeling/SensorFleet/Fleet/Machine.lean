import SensorFleet.Time.Instant
/-!
Machines made of tasks. A machine offers events; one that is ready may happen, and any order of
ready events is a run of it. Time moves only when no event is ready, to the next alarm. The
scheduler here takes the events in the order in which they are offered, each as often as it can.
-/
namespace SensorFleet

structure Machine (σ ε : Type) where
  events : σ → List ε
  isReady : σ → ε → Bool
  step : σ → ε → σ
  now : σ → Nat
  alarms : σ → List Nat
  moveTo : σ → Nat → σ

namespace Machine
variable {σ ε : Type} (m : Machine σ ε)

/-- Whether no event is ready. -/
def isIdle (s : σ) : Bool := (m.events s).all fun e => !m.isReady s e

/-- The instant at which the next alarm rings. -/
def nextRing? (s : σ) : Option Nat :=
  (((m.alarms s).map Instant.ring).filter fun t => m.now s < t).min?

/-- One event, or time moving on. -/
inductive Step : σ → σ → Prop
  | event {s : σ} (e : ε) (offered : e ∈ m.events s) (ready : m.isReady s e) : Step s (m.step s e)
  | time {s : σ} {t : Nat} (idle : m.isIdle s) (next : m.nextRing? s = some t) :
      Step s (m.moveTo s t)

/-- What can be reached from a state by steps. -/
inductive Reaches (start : σ) : σ → Prop
  | refl : Reaches start start
  | step {s t : σ} : Reaches start s → Step m s t → Reaches start t

/-- Lets one event happen while it is ready, at most `fuel` times. -/
def exhaust (e : ε) : Nat → σ → σ
  | 0, s => s
  | fuel + 1, s => if m.isReady s e then exhaust e fuel (m.step s e) else s

/-- Gives every event its turn. -/
def pass (fuel : Nat) (s : σ) : σ := (m.events s).foldl (fun s e => m.exhaust e fuel s) s

/-- Passes until no event is ready. -/
def settle (fuel : Nat) : Nat → σ → σ
  | 0, s => s
  | passes + 1, s => if m.isIdle s then s else settle fuel passes (m.pass fuel s)

/-- More steps than any run takes within one instant, or instants within one run. -/
def patience : Nat := 1000000000000

/-- Runs up to an instant, which is reached before anything happens at it; ends sooner when the
machine has `stopped`. -/
def runTo (stopped : σ → Bool) (goal : Nat) : Nat → σ → σ
  | 0, s => s
  | fuel + 1, s =>
    let s := m.settle patience patience s
    if stopped s then s
    else
      match m.nextRing? s with
      | none => m.moveTo s goal
      | some t => if t < goal then runTo stopped goal fuel (m.moveTo s t) else m.moveTo s goal

end Machine
end SensorFleet
