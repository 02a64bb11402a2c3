/-!
# Vocabularies

A library hands out kinds and languages as numbers. A vocabulary is a type whose values are the
known ones: each value has a number, a short name to show and an identifier to refer to it by.
A number that no value has is unknown.
-/

namespace SymbolIndex

/-- How one value of a vocabulary is written. -/
structure Word where
  code : UInt32
  name : String
  identifier : String

class Vocabulary (α : Type) where
  /-- What the values are called together. -/
  label : String
  /-- Every value, in the order of the numbers. -/
  all : List α
  /-- How a value is written. -/
  word : α → Word

/-- A number that is not in a vocabulary. -/
structure UnknownCode where
  label : String
  code : UInt32
deriving DecidableEq

def UnknownCode.message (e : UnknownCode) : String :=
  "unknown " ++ e.label ++ " value: " ++ toString e.code.toNat

namespace Vocabulary

variable {α : Type} [Vocabulary α]

def code (a : α) : UInt32 := (word a).code

def name (a : α) : String := (word a).name

def identifier (a : α) : String := (word a).identifier

/-- The value with the given number, if the number is known. -/
def ofCode? (raw : UInt32) : Option α := (all : List α).find? fun a => code a == raw

/-- The value with the given number, or the number as unknown. -/
def ofCode (raw : UInt32) : Except UnknownCode α :=
  match ofCode? raw with
  | some a => .ok a
  | none => .error ⟨label α, raw⟩

end Vocabulary

end SymbolIndex
