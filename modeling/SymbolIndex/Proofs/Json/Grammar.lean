import SymbolIndex.Json.Scanner

/-!
# Written forms of values

The texts that denote a value. Blanks may stand around every value, key and mark. A whole number has
one numeral, without leading zeros, and any other number is written with a fraction or an exponent.
A character of a string stands for itself, or it is written by a short escape or by its code of four
hexadecimal digits. A surrogate that has no other one beside it leaves a string that is no text.
-/

namespace SymbolIndex.Json

/-- Some blanks, or nothing. -/
def Blanks (cs : List Char) : Prop := ∀ c ∈ cs, c = ' ' ∨ c = '\n' ∨ c = '\t' ∨ c = '\r'

/-! ### Numbers -/

/-- Decimal digits, at least one. -/
def Digits (cs : List Char) : Prop := cs ≠ [] ∧ ∀ c ∈ cs, c.isDigit = true

/-- The numeral of a whole number. -/
def numeral : Bool → Nat → List Char
  | true, magnitude => '-' :: Nat.toDigits 10 magnitude
  | false, magnitude => Nat.toDigits 10 magnitude

inductive Exponent : List Char → Prop where
  | mk {e : Char} {sign digits : List Char} (he : e = 'e' ∨ e = 'E')
      (hsign : sign = [] ∨ sign = ['+'] ∨ sign = ['-']) (hdigits : Digits digits) :
      Exponent (e :: (sign ++ digits))

/-- What follows the whole part of a number that is not whole. -/
inductive Fraction : List Char → Prop where
  | exponent {cs : List Char} (h : Exponent cs) : Fraction cs
  | point {digits cs : List Char} (hdigits : Digits digits) (h : cs = [] ∨ Exponent cs) :
      Fraction ('.' :: (digits ++ cs))

/-! ### Strings -/

/-- The hexadecimal digits in their order. -/
def smallHex : List Char :=
  ['0', '1', '2', '3', '4', '5', '6', '7', '8', '9', 'a', 'b', 'c', 'd', 'e', 'f']

def largeHex : List Char :=
  ['0', '1', '2', '3', '4', '5', '6', '7', '8', '9', 'A', 'B', 'C', 'D', 'E', 'F']

/-- A hexadecimal digit and its value. -/
def HexDigit (c : Char) (d : Nat) : Prop := smallHex[d]? = some c ∨ largeHex[d]? = some c

/-- The characters that are written with a backslash before one other character. -/
def shortEscapes : List (Char × Char) :=
  [('"', '"'), ('\\', '\\'), ('/', '/'), ('b', '\x08'), ('f', '\x0c'), ('n', '\n'), ('r', '\r'),
    ('t', '\t')]

/-- A piece of a string as it is written. -/
inductive PieceForm : List Char → Piece → Prop where
  | plain {c : Char} (hcontrol : ¬ c < ' ') (hquote : c ≠ '"') (hslash : c ≠ '\\') :
      PieceForm [c] (.scalar c)
  | short {e c : Char} (h : (e, c) ∈ shortEscapes) : PieceForm ['\\', e] (.scalar c)
  | code {a b c d : Char} {x y z w : Nat} (ha : HexDigit a x) (hb : HexDigit b y)
      (hc : HexDigit c z) (hd : HexDigit d w) :
      PieceForm ['\\', 'u', a, b, c, d] (pieceOfCode (((x * 16 + y) * 16 + z) * 16 + w))

/-- A string as it is written, and the text that it is, if it is one. -/
inductive StringForm : List Char → Option String → Prop where
  | mk (pieces : List (List Char × Piece)) (h : ∀ p ∈ pieces, PieceForm p.1 p.2) :
      StringForm ('"' :: (pieces.flatMap Prod.fst ++ ['"']))
        ((textOfPieces (pieces.map Prod.snd)).map String.ofList)

/-! ### Values -/

/-- A member of an object as it is written. -/
structure MemberForm where
  before : List Char
  key : List Char
  after : List Char
  value : List Char
  name : Option String
  content : Json

namespace MemberForm

def text (m : MemberForm) : List Char := m.before ++ (m.key ++ (m.after ++ ':' :: m.value))

def member (m : MemberForm) : Option String × Json := (m.name, m.content)

/-- The key is a string with blanks around it. -/
structure WellKeyed (m : MemberForm) : Prop where
  before : Blanks m.before
  key : StringForm m.key m.name
  after : Blanks m.after

end MemberForm

def word : Bool → List Char
  | true => ['t', 'r', 'u', 'e']
  | false => ['f', 'a', 'l', 's', 'e']

/-- Texts with commas between them. -/
def separated (texts : List (List Char)) : List Char := [','].intercalate texts

/-- The text is one that denotes the value. -/
inductive Written : List Char → Json → Prop where
  | null : Written ['n', 'u', 'l', 'l'] .null
  | bool (b : Bool) : Written (word b) (.bool b)
  | integer (negative : Bool) (magnitude : Nat) :
      Written (numeral negative magnitude) (.integer negative magnitude)
  | decimal (negative : Bool) (magnitude : Nat) {cs : List Char} (h : Fraction cs) :
      Written (numeral negative magnitude ++ cs) (.decimal (numeral negative magnitude ++ cs))
  | string {cs : List Char} {s : Option String} (h : StringForm cs s) : Written cs (.string s)
  | array (items : List (List Char × Json)) {first last : List Char} (hfirst : Blanks first)
      (hlast : Blanks last) (h : ∀ i ∈ items, Written i.1 i.2) :
      Written ('[' :: (first ++ (separated (items.map Prod.fst) ++ (last ++ [']']))))
        (.array (items.map Prod.snd))
  | object (members : List MemberForm) {first last : List Char} (hfirst : Blanks first)
      (hlast : Blanks last) (hkeys : ∀ m ∈ members, m.WellKeyed)
      (h : ∀ m ∈ members, Written m.value m.content) :
      Written ('\x7b' :: (first ++ (separated (members.map MemberForm.text) ++ (last ++ ['\x7d']))))
        (.object (members.map MemberForm.member))
  | padded {before cs after : List Char} {j : Json} (hbefore : Blanks before) (h : Written cs j)
      (hafter : Blanks after) : Written (before ++ (cs ++ after)) j

end SymbolIndex.Json
