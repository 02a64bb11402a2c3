import SymbolIndex.Library.Loading
import SymbolIndex.Text.Quoted

/-!
# Shared libraries

A shared library exports some symbols and reports its versions.
-/

namespace SymbolIndex

structure SharedLibrary where
  exports : List String
  version : UInt32
  formatVersion : UInt32

namespace SharedLibrary

/-- Looks up a symbol. The symbol may come with a zero behind it. -/
def lookup (l : SharedLibrary) (symbol : String) : Option String :=
  let name := if symbol.endsWith "\x00" then (symbol.dropEnd 1).toString else symbol
  if l.exports.contains name then some name else none

/-- The source of the symbols of the library at a path. -/
def source (l : SharedLibrary) (path : String) : SymbolSource String :=
  .ofMap path l.lookup l.version l.formatVersion

/-- The library at a path as it is shown when it is looked into. -/
def inspect (path : String) : String :=
  "DynamicLibrary \x7b path: " ++ Text.quoted path ++ ", .. \x7d"

/-- Without some symbols. -/
def without (l : SharedLibrary) (symbols : List String) : SharedLibrary :=
  { l with exports := l.exports.filter fun s => !symbols.contains s }

/-- With some more symbols. -/
def andAlso (l : SharedLibrary) (symbols : List String) : SharedLibrary :=
  { l with exports := l.exports ++ symbols }

/-- A library that exports everything. -/
def complete (version formatVersion : UInt32) : SharedLibrary where
  exports := Operation.catalogue.map Operation.symbol ++ [closureClassSymbol]
  version := version
  formatVersion := formatVersion

end SharedLibrary

end SymbolIndex
