import SensorFleet.Crash
import SensorFleet.Id
import SensorFleet.Source.Stream
/-!
Sources of values, and what makes them. A source gives a value or crashes at each draw. A factory
makes one for each run of a producer; making one may crash too.
-/
namespace SensorFleet

inductive Draw
  | value (x : Binary64)
  | crash (c : Crash)
deriving DecidableEq, Repr

/-- What each draw gives, counted from zero. -/
abbrev Source := Nat → Draw

namespace Source

/-- Plays a list of draws and then gives the same value for ever. -/
def listed (draws : Array Draw) (fallback : Binary64) : Source := fun n =>
  (draws[n]?).getD (.value fallback)

def random (seed : UInt64) : Source :=
  let key := Stream.key seed
  fun n => .value (Stream.sample key n)

end Source

inductive Creation
  | source (s : Source)
  | crash (c : Crash)

/-- What is made when a producer asks for its n-th source, and `total` were made before for all
producers together. -/
abbrev SourceFactory := (id : ProducerId) → (nth total : Nat) → Creation

namespace SourceFactory

/-- The seed of a source: the factory's seed, mixed with the number of the creation and with the
producer in the upper half. -/
def mixedSeed (seed : UInt64) (total : Nat) (id : ProducerId) : UInt64 :=
  seed ^^^ (total.toUInt64 * (0x9e3779b97f4a7c15 : UInt64)) ^^^ (id.toUInt64 <<< 32)

/-- Random sources, of which every creation has a seed of its own. -/
def seeded (seed : UInt64) : SourceFactory := fun id _ total =>
  .source (Source.random (mixedSeed seed total id))

end SourceFactory
end SensorFleet
