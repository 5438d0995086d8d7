import SensorFleet.Id
import SensorFleet.Json.Value
/-!
One reading of a simulated sensor, its subject on the broker and its payload there.
-/
namespace SensorFleet

structure Reading where
  producer : ProducerId
  value : Binary64
  capturedAt : WallTime
deriving DecidableEq, Repr, Inhabited

namespace Reading

def subject (r : Reading) (root : String) : String := root ++ ".data." ++ r.producer.text

def toJson (r : Reading) : Json :=
  .object [("producer_id", .nat r.producer.toNat), ("value", .real r.value),
    ("captured_at", .string r.capturedAt.text)]

def payload (r : Reading) : String := r.toJson.text

end Reading
end SensorFleet
