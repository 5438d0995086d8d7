/-!
Why a JSON text could not be decoded: it is not JSON, it ends too early, or it holds something else
than was expected. Only the last kind has a wording.
-/
namespace SensorFleet.Json

inductive Fault
  | malformed
  | unfinished
  | content (message : String)
deriving DecidableEq, Repr

/-- A decoder takes its value from the front of a text and returns what is left. -/
abbrev Decoder (α : Type) := List Char → Except Fault (α × List Char)

end SensorFleet.Json
