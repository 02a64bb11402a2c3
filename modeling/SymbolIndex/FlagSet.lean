/-!
# Sets of flags

A set of flags is a 64-bit number. A catalogue gives names to some of the bits, in the order in
which the names are shown. Bits without a name belong to the set like any other but are not shown.
-/

namespace SymbolIndex

/-- A bit, by its position, with its name. -/
structure NamedFlag where
  position : Nat
  name : String

def NamedFlag.mask (f : NamedFlag) : UInt64 := UInt64.ofNat (1 <<< f.position)

namespace FlagSet

/-- Every bit of the second set is in the first. -/
def contains (a b : UInt64) : Bool := a &&& b == b

/-- Some bit is in both sets. -/
def intersects (a b : UInt64) : Bool := a &&& b != 0

/-- The names of the flags of a set, in the order of the catalogue. -/
def names (catalogue : List NamedFlag) (a : UInt64) : List String :=
  (catalogue.filter fun f => contains a f.mask).map NamedFlag.name

end FlagSet

end SymbolIndex
