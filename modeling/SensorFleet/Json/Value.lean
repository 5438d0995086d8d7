import SensorFleet.Number.Shortest
/-!
JSON values and their compact text. Members keep the order in which they are given, numbers are
whole or doubles, and a string escapes only what it must.
-/
namespace SensorFleet

inductive Json
  | null
  | bool (value : Bool)
  | whole (value : Int)
  | real (value : Binary64)
  | string (value : String)
  | array (items : List Json)
  | object (members : List (String × Json))
deriving Repr, Inhabited

namespace Json

/-- Doubles are positional from `1e-5` to below `1e16`; what is not finite is written as null. -/
def reals : Layout := ⟨-5, 15, "+", "null"⟩

def hexDigit (n : Nat) : Char := Nat.digitChar n

/-- A character inside a string: quotes, backslashes and control characters are escaped. -/
def escape (c : Char) : List Char :=
  if c = '"' then ['\\', '"']
  else if c = '\\' then ['\\', '\\']
  else if c = '\n' then ['\\', 'n']
  else if c = '\r' then ['\\', 'r']
  else if c = '\t' then ['\\', 't']
  else if c = '\x08' then ['\\', 'b']
  else if c = '\x0c' then ['\\', 'f']
  else if c.toNat < 0x20 then ['\\', 'u', '0', '0', hexDigit (c.toNat / 16), hexDigit (c.toNat % 16)]
  else [c]

def quoted (s : List Char) : List Char := '"' :: (s.flatMap escape ++ ['"'])

mutual

/-- The text without blanks. -/
def chars : Json → List Char
  | null => "null".toList
  | bool b => (if b then "true" else "false").toList
  | whole n => (toString n).toList
  | real x => (reals.text x).toList
  | string s => quoted s.toList
  | array items => '[' :: (itemChars items ++ [']'])
  | object members => '\x7b' :: (memberChars members ++ ['\x7d'])

def itemChars : List Json → List Char
  | [] => []
  | [v] => chars v
  | v :: w :: rest => chars v ++ ',' :: itemChars (w :: rest)

def memberChars : List (String × Json) → List Char
  | [] => []
  | [(k, v)] => quoted k.toList ++ ':' :: chars v
  | (k, v) :: m :: rest => quoted k.toList ++ ':' :: (chars v ++ ',' :: memberChars (m :: rest))

end

def text (v : Json) : String := String.ofList v.chars

def nat (n : Nat) : Json := whole n

end Json
end SensorFleet
