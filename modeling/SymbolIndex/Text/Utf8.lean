/-!
# Text as octets

Text crosses to and from a library as octets. `octets` writes a text in UTF-8, and `terminated?`
writes one that must not hold a zero. `decode` reads any octets back: a maximal beginning of a
character that is not continued, and an octet that begins none, are each read as one replacement
character.
-/

namespace SymbolIndex.Text

abbrev Octets := List UInt8

/-- The UTF-8 form of a text. -/
def octets (s : String) : Octets :=
  s.toList.flatMap String.utf8EncodeChar

/-- The octets of a text that is to end with a zero. There are none if the text has a zero of
its own. -/
def terminated? (s : String) : Option Octets :=
  if s.contains '\x00' then none else some (octets s)

/-- The character that stands for what cannot be read. -/
def replacement : Char := '\uFFFD'

/-- What a valid beginning of a character still demands: the bits read so far, the range of the
next octet, and the number of octets after that one. -/
structure Owed where
  value : Nat
  low : UInt8
  high : UInt8
  after : Nat

/-- Reads an octet where a character begins. -/
def start (b : UInt8) : List Char × Option Owed :=
  if b < 0x80 then ([Char.ofNat b.toNat], none)
  else if b < 0xC2 then ([replacement], none)
  else if b < 0xE0 then ([], some ⟨b.toNat - 0xC0, 0x80, 0xBF, 0⟩)
  else if b < 0xF0 then
    ([], some ⟨b.toNat - 0xE0, if b = 0xE0 then 0xA0 else 0x80, if b = 0xED then 0x9F else 0xBF, 1⟩)
  else if b < 0xF5 then
    ([], some ⟨b.toNat - 0xF0, if b = 0xF0 then 0x90 else 0x80, if b = 0xF4 then 0x8F else 0xBF, 2⟩)
  else ([replacement], none)

/-- Reads an octet. An octet that is not the one owed ends the character before it and is read
as the beginning of another. -/
def step : Option Owed → UInt8 → List Char × Option Owed
  | none, b => start b
  | some o, b =>
    if o.low ≤ b ∧ b ≤ o.high then
      let value := o.value * 64 + (b.toNat - 0x80)
      match o.after with
      | 0 => ([Char.ofNat value], none)
      | n + 1 => ([], some ⟨value, 0x80, 0xBF, n⟩)
    else
      (replacement :: (start b).1, (start b).2)

/-- Reads octets after a beginning, if there is one. -/
def decodeFrom : Option Owed → Octets → List Char
  | none, [] => []
  | some _, [] => [replacement]
  | o, b :: bs => (step o b).1 ++ decodeFrom (step o b).2 bs

/-- Reads octets as text. -/
def decode (bs : Octets) : String :=
  String.ofList (decodeFrom none bs)

/-- Reads a text of known length. A missing one is empty. -/
def read : Option Octets → String
  | none => ""
  | some bs => decode bs

/-- Reads a text that ends at its first zero. A missing one is empty. -/
def readTerminated : Option Octets → String
  | none => ""
  | some bs => decode (bs.takeWhile (· ≠ 0))

end SymbolIndex.Text
