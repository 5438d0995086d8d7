import SensorFleet.Json.Value
/-!
Indented JSON text: one item or member a line, two blanks for each level. Empty lists and objects
stay on one line.
-/
namespace SensorFleet.Json

def newLine (depth : Nat) : List Char := '\n' :: List.replicate (2 * depth) ' '

mutual

/-- The indented text of a value that stands `depth` levels deep. -/
def prettyChars (depth : Nat) : Json → List Char
  | array (v :: vs) =>
    '[' :: (newLine (depth + 1) ++ prettyItems (depth + 1) (v :: vs) ++ newLine depth ++ [']'])
  | object (m :: ms) =>
    '\x7b' :: (newLine (depth + 1) ++ prettyMembers (depth + 1) (m :: ms) ++ newLine depth ++ ['\x7d'])
  | v => v.chars

def prettyItems (depth : Nat) : List Json → List Char
  | [] => []
  | [v] => prettyChars depth v
  | v :: w :: rest => prettyChars depth v ++ ',' :: (newLine depth ++ prettyItems depth (w :: rest))

def prettyMembers (depth : Nat) : List (String × Json) → List Char
  | [] => []
  | [(k, v)] => quoted k.toList ++ ':' :: ' ' :: prettyChars depth v
  | (k, v) :: m :: rest =>
    quoted k.toList ++ ':' :: ' ' :: (prettyChars depth v ++ ',' :: (newLine depth ++
      prettyMembers depth (m :: rest)))

end

def pretty (v : Json) : String := String.ofList (v.prettyChars 0)

end SensorFleet.Json
