import SymbolIndex.Json.Basic

/-!
# From characters to tokens

The scanner takes one character at a time and is in one of six states: between tokens, inside a
word, inside a number, inside a string, after a backslash, or inside the digits of an escaped
code. A word or a number ends with the first character that cannot belong to it.
-/

namespace SymbolIndex.Json

/-- A piece of a string: a character, or a surrogate that an escape has given. -/
inductive Piece where
  | scalar (c : Char)
  | surrogate (code : Nat)

/-- The character that a pair of surrogates stands for. -/
def pairedScalar (high low : Nat) : Char :=
  Char.ofNat (0x10000 + (high - 0xD800) * 0x400 + (low - 0xDC00))

/-- The text of a string. A high surrogate and a low one after it are one character. -/
def textOfPieces : List Piece → Option (List Char)
  | [] => some []
  | .scalar c :: rest => (textOfPieces rest).map (c :: ·)
  | .surrogate high :: .surrogate low :: rest =>
    if high < 0xDC00 ∧ 0xDC00 ≤ low then (textOfPieces rest).map (pairedScalar high low :: ·)
    else none
  | .surrogate _ :: _ => none

/-- The piece that an escaped code gives. -/
def pieceOfCode (code : Nat) : Piece :=
  if 0xD800 ≤ code ∧ code < 0xE000 then .surrogate code else .scalar (Char.ofNat code)

inductive Scan where
  | between
  /-- Inside a word. What has been read stands last first, here and below. -/
  | word (read : List Char)
  | number (read : List Char)
  | string (read : List Piece)
  /-- Inside a string, after a backslash. -/
  | escape (read : List Piece)
  /-- Inside a string, in an escaped code. -/
  | code (read : List Piece) (digits value : Nat)

def isBlank (c : Char) : Bool := c = ' ' || c = '\n' || c = '\t' || c = '\r'

def isNumeral (c : Char) : Bool :=
  c.isDigit || c = '-' || c = '+' || c = '.' || c = 'e' || c = 'E'

/-- The value of a hexadecimal digit. -/
def digitValue? (c : Char) : Option Nat :=
  if c.isDigit then some (c.toNat - '0'.toNat)
  else if 'a' ≤ c ∧ c ≤ 'f' then some (c.toNat - 'a'.toNat + 10)
  else if 'A' ≤ c ∧ c ≤ 'F' then some (c.toNat - 'A'.toNat + 10)
  else none

/-- The character that a short escape gives. -/
def shortEscape? (c : Char) : Option Char :=
  if c = '"' ∨ c = '\\' ∨ c = '/' then some c
  else if c = 'b' then some '\x08'
  else if c = 'f' then some '\x0c'
  else if c = 'n' then some '\n'
  else if c = 'r' then some '\r'
  else if c = 't' then some '\t'
  else none

def wordToken? (letters : List Char) : Option Token :=
  if letters = ['n', 'u', 'l', 'l'] then some (.scalar .null)
  else if letters = ['t', 'r', 'u', 'e'] then some (.scalar (.bool true))
  else if letters = ['f', 'a', 'l', 's', 'e'] then some (.scalar (.bool false))
  else none

/-- The number that decimal digits denote. -/
def magnitude (digits : List Char) : Nat :=
  digits.foldl (fun n c => n * 10 + (c.toNat - '0'.toNat)) 0

/-- Nothing, or a mark of an exponent, perhaps a sign, and some digits. -/
def isExponent : List Char → Bool
  | [] => true
  | e :: rest =>
    (e = 'e' || e = 'E') &&
      match rest with
      | [] => false
      | s :: digits =>
        if s = '+' ∨ s = '-' then !digits.isEmpty && digits.all Char.isDigit
        else rest.all Char.isDigit

/-- What may stand after the whole part of a number. -/
def isFraction : List Char → Bool
  | '.' :: rest =>
    !(rest.takeWhile Char.isDigit).isEmpty && isExponent (rest.dropWhile Char.isDigit)
  | rest => isExponent rest

/-- The number that a lexeme denotes, if it has the form of a number: a sign perhaps, digits
without a leading zero, and perhaps a fraction and an exponent. -/
def numberToken? (lexeme : List Char) : Option Token :=
  let negative := lexeme.head? = some '-'
  let unsigned := if negative then lexeme.tail else lexeme
  let digits := unsigned.takeWhile Char.isDigit
  let rest := unsigned.dropWhile Char.isDigit
  if digits = [] ∨ (digits.head? = some '0' ∧ digits ≠ ['0']) then none
  else if rest = [] then some (.scalar (.integer negative (magnitude digits)))
  else if isFraction rest then some (.scalar (.decimal lexeme))
  else none

/-- Reads a character where a token may begin. -/
def scanBetween (c : Char) : Option (List Token × Scan) :=
  if isBlank c then some ([], .between)
  else if c = '[' then some ([.openArray], .between)
  else if c = ']' then some ([.closeArray], .between)
  else if c = '\x7b' then some ([.openObject], .between)
  else if c = '\x7d' then some ([.closeObject], .between)
  else if c = ',' then some ([.comma], .between)
  else if c = ':' then some ([.colon], .between)
  else if c = '"' then some ([], .string [])
  else if c = '-' ∨ c.isDigit then some ([], .number [c])
  else if c.isLower then some ([], .word [c])
  else none

/-- Reads a character that follows the token given. -/
def scanAfter (token : Option Token) (c : Char) : Option (List Token × Scan) := do
  let t ← token
  let (ts, s) ← scanBetween c
  return (t :: ts, s)

/-- Reads a character: the tokens that it completes, and the state after it. -/
def scanStep : Scan → Char → Option (List Token × Scan)
  | .between, c => scanBetween c
  | .word read, c =>
    if c.isLower then some ([], .word (c :: read))
    else scanAfter (wordToken? read.reverse) c
  | .number read, c =>
    if isNumeral c then some ([], .number (c :: read))
    else scanAfter (numberToken? read.reverse) c
  | .string read, c =>
    if c = '"' then
      some ([.scalar (.string ((textOfPieces read.reverse).map String.ofList))], .between)
    else if c = '\\' then some ([], .escape read)
    else if c < ' ' then none
    else some ([], .string (.scalar c :: read))
  | .escape read, c =>
    if c = 'u' then some ([], .code read 0 0)
    else (shortEscape? c).map fun e => ([], .string (.scalar e :: read))
  | .code read digits value, c => do
    let d ← digitValue? c
    let value := value * 16 + d
    if digits = 3 then return ([], .string (pieceOfCode value :: read))
    else return ([], .code read (digits + 1) value)

/-- The tokens that the end of the text completes. -/
def scanEnd : Scan → Option (List Token)
  | .between => some []
  | .word read => (wordToken? read.reverse).map ([·])
  | .number read => (numberToken? read.reverse).map ([·])
  | _ => none

end SymbolIndex.Json
