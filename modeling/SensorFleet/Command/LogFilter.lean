import SensorFleet.Notice
import SensorFleet.Text.Blank
/-!
Filters of the log. A filter is a list of directives, each a level, a target, or both; the directive
with the longest target that begins the target of a line decides whether the line is shown.
-/
namespace SensorFleet.Command

/-- The least severe level that is shown, as a rank; nothing is shown if there is none. -/
abbrev Threshold := Option Nat

structure Directive where
  target : String := ""
  threshold : Threshold
deriving DecidableEq, Repr

abbrev LogFilter := List Directive

namespace LogFilter

def everything : Threshold := some Level.trace.rank

/-- Level names in any case, or digits from 0, which shows nothing, to 5, which shows all. -/
def threshold? (s : String) : Option Threshold :=
  match String.ofList (s.toList.map Char.toLower) with
  | "off" | "0" => some none
  | "error" | "1" => some (some Level.error.rank)
  | "warn" | "2" => some (some Level.warn.rank)
  | "info" | "3" => some (some Level.info.rank)
  | "debug" | "4" => some (some Level.debug.rank)
  | "trace" | "5" => some everything
  | _ => none

def mayStart (c : Char) : Bool := c.isAlphanum || c ∈ ['-', ':', '_'] || 0x7f < c.toNat

def directive? (cs : List Char) : Option Directive :=
  if !cs.head?.any mayStart || '[' ∈ cs then none
  else
    let target := cs.takeWhile (· ≠ '=')
    match cs.drop target.length with
    | [] =>
      let word := String.ofList target
      some (match threshold? word with
        | some t => ⟨"", t⟩
        | none => ⟨word, everything⟩)
    | [_] => some ⟨String.ofList target, everything⟩
    | _ :: level => (threshold? (String.ofList level)).map fun t => ⟨String.ofList target, t⟩

/-- The parts of a text between commas, without blanks around them; empty ones are left out. -/
def parts (s : String) : List (List Char) :=
  let trim (cs : List Char) : List Char := (dropBlanks (dropBlanks cs).reverse).reverse
  ((s.toList.splitOn ',').filter fun cs => !cs.isEmpty).map trim

/-- A text without directives shows errors only. -/
def ofText? (s : String) : Option LogFilter :=
  match (parts s).mapM directive? with
  | some [] => some [⟨"", some Level.error.rank⟩]
  | ds => ds

def standard : LogFilter := [⟨"", some Level.info.rank⟩]

/-- The directive that decides about a target: the longest one, of equal ones the last. -/
def decider? (f : LogFilter) (target : String) : Option Directive :=
  (f.filter fun d => d.target.toList.isPrefixOf target.toList).foldl (fun best d =>
    match best with
    | some b => if d.target.length < b.target.length then some b else some d
    | none => some d) none

def admits (f : LogFilter) (level : Level) (target : String) : Bool :=
  (f.decider? target).any fun d => d.threshold.any fun least => least ≤ level.rank

end LogFilter
end SensorFleet.Command
