/-!
# Versions

A library reports its version as one number, `major * 10000 + minor`. The number has 32 bits, so
that not every pair of parts can be encoded. A library of another major never serves, and one of
a smaller minor never does.
-/

namespace SymbolIndex

structure Version where
  major : UInt32
  minor : UInt32
deriving DecidableEq

namespace Version

/-- The version that a library must satisfy unless another is asked for. -/
def required : Version := ⟨0, 15⟩

/-- The weight of the major part. -/
def scale : Nat := 10000

/-- The step of encoding that exceeds 32 bits. -/
inductive Overflow where
  | multiplication
  | addition
deriving DecidableEq

def Overflow.message : Overflow → String
  | multiplication => "attempt to multiply with overflow"
  | addition => "attempt to add with overflow"

/-- The number by which a library reports the version. -/
def encode (v : Version) : Except Overflow UInt32 :=
  let high := v.major.toNat * scale
  if UInt32.size ≤ high then .error .multiplication
  else if UInt32.size ≤ high + v.minor.toNat then .error .addition
  else .ok (UInt32.ofNat (high + v.minor.toNat))

/-- The version that a number reports. -/
def decode (raw : UInt32) : Version :=
  ⟨UInt32.ofNat (raw.toNat / scale), UInt32.ofNat (raw.toNat % scale)⟩

/-- A library that reports the second version serves where the first one is required. -/
def servedBy (required reported : Version) : Bool :=
  required.major == reported.major && required.minor ≤ reported.minor

/-- Versions are ordered by their major part and then by their minor part. -/
def order (a b : Version) : Ordering :=
  (compare a.major b.major).then (compare a.minor b.minor)

def text (v : Version) : String :=
  toString v.major.toNat ++ "." ++ toString v.minor.toNat

end Version

end SymbolIndex
