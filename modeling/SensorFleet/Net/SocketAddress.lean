/-!
Socket addresses. A version 4 address is four decimal bytes; a version 6 address is eight
hexadecimal groups, of which one run of zeros may be left out, in brackets and perhaps with the
scope of its link. After a colon follows the number of the service at that address.
-/
namespace SensorFleet

inductive SocketAddress
  | v4 (bytes : List Nat) (service : Nat)
  | v6 (groups : List Nat) (scope service : Nat)
deriving DecidableEq, Repr

namespace SocketAddress

/-- What the front of a text reads as, with the text that is left. -/
abbrev Reader (α : Type) := List Char → Option (α × List Char)

def digitValue? (c : Char) : Option Nat :=
  if c.isDigit then some (c.toNat - '0'.toNat)
  else if 'a' ≤ c ∧ c ≤ 'f' then some (c.toNat - 'a'.toNat + 10)
  else if 'A' ≤ c ∧ c ≤ 'F' then some (c.toNat - 'A'.toNat + 10)
  else none

def isDigitOf (base : Nat) (c : Char) : Bool := (digitValue? c).any (· < base)

/-- All digits at the front, of which there is at least one; the number is below `bound`. -/
def number (base bound : Nat) : Reader Nat := fun cs =>
  let ds := cs.takeWhile (isDigitOf base)
  let n := ds.foldl (fun n c => base * n + (digitValue? c).getD 0) 0
  if ds.isEmpty || bound ≤ n then none else some (n, cs.drop ds.length)

def literal (c : Char) : Reader Unit
  | d :: rest => if d = c then some ((), rest) else none
  | [] => none

/-- One byte: up to three digits, of which the first is no idle zero. -/
def byte : Reader Nat := fun cs => do
  let (n, rest) ← number 10 256 cs
  let length := cs.length - rest.length
  if 3 < length ∨ (1 < length ∧ cs.head? = some '0') then none else some (n, rest)

def bytes : Reader (List Nat) := fun cs => do
  let (a, cs) ← byte cs
  let (_, cs) ← literal '.' cs
  let (b, cs) ← byte cs
  let (_, cs) ← literal '.' cs
  let (c, cs) ← byte cs
  let (_, cs) ← literal '.' cs
  let (d, cs) ← byte cs
  some ([a, b, c, d], cs)

/-- One group: up to four digits. -/
def group : Reader Nat := fun cs => do
  let (n, rest) ← number 16 UInt16.size cs
  if 4 < cs.length - rest.length then none else some (n, rest)

/-- As many groups as there are, at most `room`; four bytes may stand for the last two. Tells also
whether they did. -/
def groups (first : Bool) : Nat → List Char → List Nat × Bool × List Char
  | 0, cs => ([], false, cs)
  | room + 1, cs =>
    match (if first then some cs else (literal ':' cs).map Prod.snd) with
    | none => ([], false, cs)
    | some inner =>
      match (if 0 < room then bytes inner else none) with
      | some (bs, rest) =>
        ([bs.getD 0 0 * 256 + bs.getD 1 0, bs.getD 2 0 * 256 + bs.getD 3 0], true, rest)
      | none =>
        match group inner with
        | none => ([], false, cs)
        | some (g, rest) =>
          let (gs, mixed, rest) := groups false room rest
          (g :: gs, mixed, rest)

/-- Eight groups; two colons stand for at least one group of zeros. -/
def address : Reader (List Nat) := fun cs =>
  let (front, mixed, rest) := groups true 8 cs
  if front.length = 8 then some (front, rest)
  else if mixed then none
  else do
    let (_, rest) ← literal ':' rest
    let (_, rest) ← literal ':' rest
    let (back, _, rest) := groups true (7 - front.length) rest
    some (front ++ List.replicate (8 - front.length - back.length) 0 ++ back, rest)

def service : Reader Nat := fun cs => do
  let (_, cs) ← literal ':' cs
  number 10 UInt16.size cs

/-- A scope, or zero if none is given. -/
def scope (cs : List Char) : Nat × List Char :=
  ((literal '%' cs).bind fun (_, cs) => number 10 UInt32.size cs).getD (0, cs)

def readV4 : Reader SocketAddress := fun cs => do
  let (bs, cs) ← bytes cs
  let (p, cs) ← service cs
  some (.v4 bs p, cs)

def readV6 : Reader SocketAddress := fun cs => do
  let (_, cs) ← literal '[' cs
  let (gs, cs) ← address cs
  let (s, cs) := scope cs
  let (_, cs) ← literal ']' cs
  let (p, cs) ← service cs
  some (.v6 gs s p, cs)

/-- The address in a text that holds nothing else. -/
def ofText? (s : String) : Option SocketAddress := do
  let (a, rest) ← (readV4 s.toList).or (readV6 s.toList)
  if rest.isEmpty then some a else none

def bytesText (bs : List Nat) : String := ".".intercalate (bs.map toString)

def groupsText (gs : List Nat) : String :=
  ":".intercalate (gs.map fun g => String.ofList (Nat.toDigits 16 g))

/-- How many zeros the list starts with. -/
def leadingZeros (gs : List Nat) : Nat := (gs.takeWhile (· = 0)).length

/-- The place and length of the longest run of zeros, of several the first. -/
def longestZeros (gs : List Nat) : Nat × Nat :=
  (List.range gs.length).foldl (fun best i =>
    let n := leadingZeros (gs.drop i)
    if best.2 < n then (i, n) else best) (0, 0)

/-- The longest run of at least two zeros is left out; mapped version 4 addresses show bytes. -/
def addressText (gs : List Nat) : String :=
  if gs.take 6 = [0, 0, 0, 0, 0, 0xffff] then
    "::ffff:" ++ bytesText ((gs.drop 6).flatMap fun g => [g / 256, g % 256])
  else
    let (start, length) := longestZeros gs
    if 1 < length then groupsText (gs.take start) ++ "::" ++ groupsText (gs.drop (start + length))
    else groupsText gs

def text : SocketAddress → String
  | .v4 bs p => bytesText bs ++ ":" ++ toString p
  | .v6 gs s p =>
    "[" ++ addressText gs ++ (if s = 0 then "" else "%" ++ toString s) ++ "]:" ++ toString p

end SocketAddress
end SensorFleet
