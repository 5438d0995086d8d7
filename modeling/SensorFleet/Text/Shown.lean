import SensorFleet.Text.Visible
/-!
A text between quotes as messages show it: quotes, backslashes and what is not visible are escaped.
-/
namespace SensorFleet.Shown

def hex (n : Nat) : List Char := Nat.toDigits 16 n

def escapedCode (c : Char) : List Char := "\\u\x7b".toList ++ hex c.toNat ++ ['\x7d']

def escape (c : Char) : List Char :=
  if c = '"' then ['\\', '"']
  else if c = '\\' then ['\\', '\\']
  else if c = '\n' then ['\\', 'n']
  else if c = '\r' then ['\\', 'r']
  else if c = '\t' then ['\\', 't']
  else if c.toNat = 0 then ['\\', '0']
  else if isVisible c then [c]
  else escapedCode c

def text (s : String) : String := String.ofList ('"' :: (s.toList.flatMap escape ++ ['"']))

end SensorFleet.Shown
