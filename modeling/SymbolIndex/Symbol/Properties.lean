import SymbolIndex.FlagSet

/-!
# Properties

The properties of a symbol that do not depend on where it occurs.
-/

namespace SymbolIndex

/-- A set of properties. -/
structure Properties where
  bits : UInt64
deriving DecidableEq

namespace Properties

/-- The named properties. -/
def catalogue : List NamedFlag := [
  ⟨0, "generic"⟩, ⟨1, "template-partial-specialization"⟩, ⟨2, "template-specialization"⟩,
  ⟨3, "unittest"⟩, ⟨4, "ibannotated"⟩, ⟨5, "iboutletcollection"⟩, ⟨6, "gkinspectable"⟩,
  ⟨7, "local"⟩, ⟨8, "protocol-interface"⟩, ⟨16, "swift-async"⟩]

instance : OrOp Properties where
  or a b := ⟨a.bits ||| b.bits⟩

instance : AndOp Properties where
  and a b := ⟨a.bits &&& b.bits⟩

/-- All properties of the second set are in the first one. -/
def contains (a b : Properties) : Bool := FlagSet.contains a.bits b.bits

def isEmpty (a : Properties) : Bool := a.bits == 0

/-- The names of the properties, in the order of the catalogue. -/
def names (a : Properties) : List String := FlagSet.names catalogue a.bits

def text (a : Properties) : String := "|".intercalate a.names

end Properties

end SymbolIndex
