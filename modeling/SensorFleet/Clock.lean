import SensorFleet.Time.Instant
import SensorFleet.Time.WallTime
/-!
Clocks: what the n-th look at a clock shows when it happens at a given instant of the run. Nothing
forces a clock to go forward.
-/
namespace SensorFleet

abbrev Clock := (look instant : Nat) → WallTime

namespace Clock

def fixed (t : WallTime) : Clock := fun _ _ => t

/-- Shows the given times one after another and then stays at the last one. -/
def listed (times : Array WallTime) : Clock := fun look _ =>
  (times[look]?).getD (times.back?.getD ⟨0, 0⟩)

/-- Moves with the instants of the run, in whole milliseconds. -/
def running (origin : WallTime) : Clock := fun _ instant =>
  origin.after (Duration.ofMillis (Instant.millis instant))

end Clock
end SensorFleet
