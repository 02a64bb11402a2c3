import SymbolIndex.FlagSet

/-!
# Roles

The roles that an occurrence of a symbol plays, and those that a symbol plays towards another
one to which it is related.
-/

namespace SymbolIndex

/-- A set of roles. -/
structure Roles where
  bits : UInt64
deriving DecidableEq

namespace Roles

/-- The named roles. -/
def catalogue : List NamedFlag := [
  ⟨0, "decl"⟩, ⟨1, "def"⟩, ⟨2, "ref"⟩, ⟨3, "read"⟩, ⟨4, "write"⟩, ⟨5, "call"⟩, ⟨6, "dyn"⟩,
  ⟨7, "addr"⟩, ⟨8, "impl"⟩, ⟨19, "undef"⟩, ⟨20, "nameref"⟩, ⟨9, "childOf"⟩, ⟨10, "baseOf"⟩,
  ⟨11, "overrideOf"⟩, ⟨12, "receivedBy"⟩, ⟨13, "calledBy"⟩, ⟨14, "extendedBy"⟩,
  ⟨15, "accessorOf"⟩, ⟨16, "containedBy"⟩, ⟨17, "ibTypeOf"⟩, ⟨18, "specializationOf"⟩,
  ⟨63, "canon"⟩]

def none : Roles := ⟨0⟩
def declaration : Roles := ⟨0x1⟩
def definition : Roles := ⟨0x2⟩
def reference : Roles := ⟨0x4⟩
def write : Roles := ⟨0x10⟩
def call : Roles := ⟨0x20⟩
def calledBy : Roles := ⟨0x2000⟩
def containedBy : Roles := ⟨0x10000⟩

/-- The roles that relate a symbol to another one. -/
def relational : Roles := ⟨0x7fe00⟩

instance : OrOp Roles where
  or a b := ⟨a.bits ||| b.bits⟩

instance : AndOp Roles where
  and a b := ⟨a.bits &&& b.bits⟩

/-- All roles of the second set are in the first one. -/
def contains (a b : Roles) : Bool := FlagSet.contains a.bits b.bits

/-- Some role is in both sets. -/
def intersects (a b : Roles) : Bool := FlagSet.intersects a.bits b.bits

def isEmpty (a : Roles) : Bool := a.bits == 0

/-- The relational roles of a set. -/
def relations (a : Roles) : Roles := a &&& relational

/-- The names of the roles, in the order of the catalogue. Bits without a name have none. -/
def names (a : Roles) : List String := FlagSet.names catalogue a.bits

/-- The names with commas between them. -/
def text (a : Roles) : String := ",".intercalate a.names

end Roles

end SymbolIndex
