import SymbolIndex.Library.Backend
import SymbolIndex.Library.Loading
import SymbolIndex.Text.Quoted

/-!
# Loaded libraries in use

A library in use has an identity, so that objects of one library are not passed to another, and a
backend that does what it is asked to.
-/

namespace SymbolIndex

structure Library (σ : Type) where
  identity : Nat
  path : String
  version : Version
  formatVersion : UInt32
  /-- The library takes closures. -/
  hasClosures : Bool
  convention : Convention
  backend : Backend σ

namespace Library

variable {σ : Type}

def same (a b : Library σ) : Bool := a.identity == b.identity

/-- The library as it is shown when it is looked into. -/
def inspect (l : Library σ) : String :=
  "IndexStoreLibrary \x7b path: " ++ Text.quoted l.path
    ++ ", version: AbiVersion \x7b major: " ++ toString l.version.major.toNat
    ++ ", minor: " ++ toString l.version.minor.toNat
    ++ " \x7d, format_version: " ++ toString l.formatVersion.toNat
    ++ ", convention: " ++ l.convention.identifier ++ " \x7d"

end Library

end SymbolIndex
