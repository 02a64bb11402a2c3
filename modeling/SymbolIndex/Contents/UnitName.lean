import SymbolIndex.Text.Utf8
import SymbolIndex.Text.Quoted

/-!
# Names of units

The unit written for an output file is named after the file, with a hash of the whole path behind
it, so that outputs of one name in different directories have different names.
-/

namespace SymbolIndex

/-- One step of the hash: an octet is mixed in, and the sum is multiplied by the prime of the
64-bit Fowler-Noll-Vo hash. -/
def hashStep (h : UInt64) (b : UInt8) : UInt64 :=
  (h ^^^ b.toUInt64) * 0x100000001b3

/-- The 64-bit Fowler-Noll-Vo hash, in the form that mixes before it multiplies. -/
def hash (bs : Text.Octets) : UInt64 := bs.foldl hashStep 0xcbf29ce484222325

/-- What stands after the last slash of a path. -/
def fileName (path : List Char) : List Char :=
  (path.reverse.takeWhile (· ≠ '/')).reverse

/-- A hash in sixteen hexadecimal digits. -/
def hashText (h : UInt64) : List Char :=
  let digits := Text.hexadecimal h.toNat
  List.replicate (16 - digits.length) '0' ++ digits

/-- The name of the unit written for an output file. -/
def unitName (outputPath : String) : String :=
  String.ofList
    (fileName outputPath.toList ++ '-' :: hashText (hash (Text.octets outputPath)))

end SymbolIndex
