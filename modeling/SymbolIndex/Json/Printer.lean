import SymbolIndex.Json.Basic

/-!
# From values to texts

The printed form of a value has one item or member to a line, set two spaces deeper for each
array or object around it. Empty arrays and objects stay on their line. Characters beyond ASCII
stand as they are.
-/

namespace SymbolIndex.Json

/-- One character of a printed string. -/
def printChar (c : Char) : List Char :=
  if c = '"' then ['\\', '"']
  else if c = '\\' then ['\\', '\\']
  else if c = '\x08' then ['\\', 'b']
  else if c = '\x0c' then ['\\', 'f']
  else if c = '\n' then ['\\', 'n']
  else if c = '\r' then ['\\', 'r']
  else if c = '\t' then ['\\', 't']
  else if c < ' ' then
    ['\\', 'u', '0', '0', Nat.digitChar (c.toNat / 16), Nat.digitChar (c.toNat % 16)]
  else [c]

/-- A printed string. A string that is no text is printed as an empty one. -/
def printString (s : Option String) : List Char :=
  '"' :: ((s.getD "").toList.flatMap printChar ++ ['"'])

/-- A new line at the given depth. -/
def newLine (depth : Nat) : List Char :=
  '\n' :: List.replicate (2 * depth) ' '

mutual

/-- A value that begins at the given depth. -/
def printAt (depth : Nat) : Json → List Char
  | .null => ['n', 'u', 'l', 'l']
  | .bool true => ['t', 'r', 'u', 'e']
  | .bool false => ['f', 'a', 'l', 's', 'e']
  | .integer true n => '-' :: Nat.toDigits 10 n
  | .integer false n => Nat.toDigits 10 n
  | .decimal lexeme => lexeme
  | .string s => printString s
  | .array [] => ['[', ']']
  | .array (j :: js) =>
    '[' :: (newLine (depth + 1) ++ printAt (depth + 1) j ++ printItems (depth + 1) js
      ++ newLine depth ++ [']'])
  | .object [] => ['\x7b', '\x7d']
  | .object ((k, j) :: ms) =>
    '\x7b' :: (newLine (depth + 1) ++ printString k ++ [':', ' '] ++ printAt (depth + 1) j
      ++ printMembers (depth + 1) ms ++ newLine depth ++ ['\x7d'])

/-- The items of an array after the first one. -/
def printItems (depth : Nat) : List Json → List Char
  | [] => []
  | j :: js => ',' :: (newLine depth ++ printAt depth j ++ printItems depth js)

/-- The members of an object after the first one. -/
def printMembers (depth : Nat) : List (Option String × Json) → List Char
  | [] => []
  | (k, j) :: ms =>
    ',' :: (newLine depth ++ printString k ++ [':', ' '] ++ printAt depth j
      ++ printMembers depth ms)

end

/-- The printed form of a value. -/
def print (j : Json) : String := String.ofList (printAt 0 j)

end SymbolIndex.Json
