import SymbolIndex.Json.Basic

/-!
# Written forms of domain values

A codec writes the values of a type as values of the data format and reads them back. A record
type is given by its fields. It is written as an object with all its fields, in order, and read
from an object in which each field stands at most once, in any order, and any other members are
passed over; a field that is missing keeps its default. It is also read from an array of its
leading fields.
-/

namespace SymbolIndex

structure Codec (α : Type) where
  encode : α → Json
  decode : Json → Option α

/-- A field of a record type: its name, how it is written and how reading it changes a record. -/
structure Field (α : Type) where
  name : String
  write : α → Json
  read : Json → α → Option α

namespace Codec

def text : Codec String where
  encode := Json.text
  decode
    | .string s => s
    | _ => none

def flag : Codec Bool where
  encode := Json.bool
  decode
    | .bool b => some b
    | _ => none

/-- Natural numbers below the given bound. -/
def decodeBelow (bound : Nat) : Json → Option Nat
  | .integer false n => if n < bound then some n else none
  | _ => none

def uint32 : Codec UInt32 where
  encode n := Json.natural n.toNat
  decode j := (decodeBelow UInt32.size j).map UInt32.ofNat

def uint64 : Codec UInt64 where
  encode n := Json.natural n.toNat
  decode j := (decodeBelow UInt64.size j).map UInt64.ofNat

/-- The magnitude of the least 64-bit integer. Every magnitude below it has both signs. -/
def int64Bound : Nat := 0x8000000000000000

/-- A minus sign before zero makes no integer. -/
def int64 : Codec Int64 where
  encode n := .integer (n < 0) n.toInt.natAbs
  decode
    | .integer false n => if n < int64Bound then some (Int64.ofInt n) else none
    | .integer true n => if 0 < n ∧ n ≤ int64Bound then some (Int64.ofInt (-n)) else none
    | _ => none

/-- A value that may be absent. Absence is written, too. -/
def optional {α : Type} (c : Codec α) : Codec (Option α) where
  encode
    | none => .null
    | some a => c.encode a
  decode
    | .null => some none
    | j => (c.decode j).map some

def list {α : Type} (c : Codec α) : Codec (List α) where
  encode as := .array (as.map c.encode)
  decode
    | .array js => js.mapM c.decode
    | _ => none

/-- Reads the members of an object into a record. The names that have been met are known. -/
def readMembers {α : Type} (fields : List (Field α)) :
    List String → List (Option String × Json) → α → Option α
  | _, [], a => some a
  | _, (none, _) :: _, _ => none
  | met, (some key, j) :: members, a =>
    match fields.find? fun f => f.name == key with
    | none => readMembers fields met members a
    | some f =>
      if key ∈ met then none
      else (f.read j a).bind (readMembers fields (key :: met) members)

/-- Reads the items of an array into the leading fields of a record. -/
def readItems {α : Type} : List (Field α) → List Json → α → Option α
  | _, [], a => some a
  | [], _ :: _, _ => none
  | f :: fields, j :: js, a => (f.read j a).bind (readItems fields js)

/-- A record type with the given fields, whose defaults the given record holds. -/
def record {α : Type} (fields : List (Field α)) (default : α) : Codec α where
  encode a := Json.fields (fields.map fun f => (f.name, f.write a))
  decode
    | .object members => readMembers fields [] members default
    | .array items => readItems fields items default
    | _ => none

/-- A field with the values of a codec. -/
def field {α β : Type} (c : Codec β) (name : String) (get : α → β) (set : β → α → α) :
    Field α where
  name := name
  write a := c.encode (get a)
  read j a := (c.decode j).map fun b => set b a

end Codec

end SymbolIndex
