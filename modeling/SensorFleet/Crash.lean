/-!
What a task carries when it dies: a text, or something else.
-/
namespace SensorFleet

inductive Crash
  | text (message : String)
  | other
deriving DecidableEq, Repr, Inhabited

namespace Crash

/-- The message recorded for the crash of a producer run. -/
def message : Crash → String
  | .text m => m
  | .other => "non-string panic payload"

end Crash
end SensorFleet
