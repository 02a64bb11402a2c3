import Mathlib.Algebra.Group.Int.Defs
import Mathlib.Algebra.Group.Nat.Defs
import Mathlib.Data.List.Forall2
import SymbolIndex.Json.Basic

/-!
# Descriptions of domain values

A form tells which values of the data format describe a value of a type, and what can be wrong with
one that should. A record is described by an object in which each attribute stands at most once. An
attribute may be missing if it has its usual value, and what is no attribute is passed over.
-/

namespace SymbolIndex

/-- What can be wrong with a description. -/
inductive Fault where
  /-- An attribute stands twice in a record. -/
  | repeated
  /-- There is null where a value has to be. -/
  | null
  /-- There is a number with a fraction or an exponent. -/
  | fraction
  /-- There is a whole number that may not be there. -/
  | range
  /-- There is a minus sign before a zero. -/
  | signedZero

/-- The number with a sign and a magnitude. -/
def signed : Bool → Nat → Int
  | false, magnitude => magnitude
  | true, magnitude => -magnitude

/-- No number at all. -/
def NoNumber (_ : Int) : Prop := False

/-- The number has so many bits, none of which is a sign. -/
def Unsigned (bits : Nat) (n : Int) : Prop := 0 ≤ n ∧ n < 2 ^ bits

/-- The number has a sign and so many bits. -/
def Signed (bits : Nat) (n : Int) : Prop := -2 ^ bits ≤ n ∧ n < 2 ^ bits

/-- What is wrong with the value by itself, where certain whole numbers and perhaps null may be. -/
inductive Wrong (nullable : Bool) (Number : Int → Prop) : Fault → Json → Prop where
  | null (h : nullable = false) : Wrong nullable Number .null .null
  | fraction (lexeme : List Char) : Wrong nullable Number .fraction (.decimal lexeme)
  | range {negative : Bool} {magnitude : Nat} (h : ¬ Number (signed negative magnitude)) :
      Wrong nullable Number .range (.integer negative magnitude)
  | signedZero : Wrong nullable Number .signedZero (.integer true 0)

/-- How the values of a type are described. -/
structure Form (β : Type) where
  /-- The value that need not be mentioned. -/
  usual : β
  /-- The value of the data format describes the value of the type. -/
  Says : Json → β → Prop
  /-- The value of the data format has the fault, by itself or somewhere in its parts. -/
  Has : Fault → Json → Prop

/-- An attribute of the records of a type. -/
structure Attribute (α : Type) where
  name : String
  /-- The attribute has its usual value in the record. -/
  Usual : α → Prop
  Says : Json → α → Prop
  Has : Fault → Json → Prop

/-- How often the name stands before a member. -/
def times (name : String) (members : List (Option String × Json)) : Nat :=
  members.countP fun m => m.1 == some name

/-- The members of an object describe the record. -/
structure Describes {α : Type} (attributes : List (Attribute α))
    (members : List (Option String × Json)) (a : α) : Prop where
  keys : ∀ m ∈ members, m.1 ≠ none
  once : ∀ x ∈ attributes, times x.name members ≤ 1
  values : ∀ x ∈ attributes, ∀ j, (some x.name, j) ∈ members → x.Says j a
  /-- A missing attribute has its usual value. -/
  missing : ∀ x ∈ attributes, times x.name members = 0 → x.Usual a

/-- What is wrong with the description of a record. Its attributes may also stand in an array in
their order. -/
inductive RecordHas {α : Type} (attributes : List (Attribute α)) : Fault → Json → Prop where
  | itself {fault : Fault} {j : Json} (h : Wrong false NoNumber fault j) :
      RecordHas attributes fault j
  | repeated {members : List (Option String × Json)} {x : Attribute α} (hx : x ∈ attributes)
      (h : 1 < times x.name members) :
      RecordHas attributes .repeated (.object members)
  | member {fault : Fault} {members : List (Option String × Json)} {x : Attribute α} {j : Json}
      (hx : x ∈ attributes) (hj : (some x.name, j) ∈ members) (h : x.Has fault j) :
      RecordHas attributes fault (.object members)
  | item {fault : Fault} {items : List Json} {i : Nat} {x : Attribute α} {j : Json}
      (hx : attributes[i]? = some x) (hj : items[i]? = some j) (h : x.Has fault j) :
      RecordHas attributes fault (.array items)

namespace Form

variable {α β : Type}

def text : Form String where
  usual := ""
  Says j s := j = .text s
  Has := Wrong false NoNumber

/-- A text that may be absent. Null says that it is. -/
def optionalText : Form (Option String) where
  usual := none
  Says j s := j = s.elim .null .text
  Has := Wrong true NoNumber

def flag : Form Bool where
  usual := false
  Says j b := j = .bool b
  Has := Wrong false NoNumber

/-- The numbers of a type that has the given ones. -/
def integer (zero : β) (value : β → Int) (Number : Int → Prop) : Form β where
  usual := zero
  Says j b := ∃ negative magnitude, j = .integer negative magnitude
    ∧ value b = signed negative magnitude
  Has := Wrong false Number

def uint32 : Form UInt32 := integer 0 (fun n => n.toNat) (Unsigned 32)

def uint64 : Form UInt64 := integer 0 (fun n => n.toNat) (Unsigned 64)

def int64 : Form Int64 := integer 0 Int64.toInt (Signed 63)

def list (F : Form β) : Form (List β) where
  usual := []
  Says j bs := ∃ items, j = .array items ∧ List.Forall₂ F.Says items bs
  Has fault j := Wrong false NoNumber fault j
    ∨ ∃ items, j = .array items ∧ ∃ i ∈ items, F.Has fault i

/-- The attribute of the given name, which has its values in the form. -/
def named (F : Form β) (name : String) (get : α → β) : Attribute α where
  name := name
  Usual a := get a = F.usual
  Says j a := F.Says j (get a)
  Has := F.Has

def record (attributes : List (Attribute α)) (usual : α) : Form α where
  usual := usual
  Says j a := ∃ members, j = .object members ∧ Describes attributes members a
  Has := RecordHas attributes

end Form

end SymbolIndex
