import SymbolIndex.Text.Unprintable

/-!
# Quoted text

The quoted form of a text shows a text inside a message without ambiguity. Quotes and backslashes
are escaped, zero, tab, return and line feed have short forms, and every other unprintable
character is written as its number in hexadecimal.
-/

namespace SymbolIndex.Text

/-- The number in hexadecimal, in lower case, without leading zeros. -/
def hexadecimal (n : Nat) : List Char := Nat.toDigits 16 n

/-- One character of a quoted text. -/
def escape (c : Char) : List Char :=
  if c = '"' then ['\\', '"']
  else if c = '\\' then ['\\', '\\']
  else if c = '\x00' then ['\\', '0']
  else if c = '\t' then ['\\', 't']
  else if c = '\r' then ['\\', 'r']
  else if c = '\n' then ['\\', 'n']
  else if isUnprintable c then
    ['\\', 'u', '\x7b'] ++ hexadecimal c.toNat ++ ['\x7d']
  else [c]

/-- The quoted form of a text. -/
def quoted (s : String) : String :=
  String.ofList ('"' :: s.toList.flatMap escape ++ ['"'])

end SymbolIndex.Text
