import SymbolIndex.Library.Loading

/-!
# Libraries in the process

A library that is part of the process exports what a shared library would. It can be made to
report any version, to hide symbols, and to be built without closures. All such libraries report
their versions by the same two functions, which return what the library that was looked into last
has left for them.
-/

namespace SymbolIndex

/-- What the functions that report versions return. -/
structure Reported where
  version : UInt32 := 0
  formatVersion : UInt32 := 0

structure InProcessLibrary where
  version : Version := .required
  formatVersion : UInt32 := 13
  /-- The symbols that are not exported. -/
  hidden : List String := []
  /-- The library is built for closures. -/
  closures : Bool := true

namespace InProcessLibrary

/-- What stands in place of the path of a file. -/
def path : String := "<fake libIndexStore>"

/-- The operation that is exported under a symbol. -/
def operation? (symbol : String) : Option Operation :=
  Operation.catalogue.find? fun o => o.symbol == symbol

/-- Whether a look-up encodes the version that is to be reported. -/
def reports (symbol : String) : Bool :=
  symbol == exportedSymbol "version" || symbol == exportedSymbol "format_version"

/-- The symbol as the library exports it, if it does. -/
def exported? (l : InProcessLibrary) (symbol : String) : Option String :=
  if l.hidden.contains symbol then none
  else if symbol = closureClassSymbol then if l.closures then some symbol else none
  else
    match operation? symbol with
    | none => none
    | some o => if o.optional && !l.closures then none else some symbol

/-- Looks up a symbol. A look-up of an operation that reports a version leaves what the library
reports with the process. For that the version is encoded, which may overflow. -/
def lookup (l : InProcessLibrary) (symbol : String) (r : Reported) :
    Except String (Option String × Reported) :=
  if l.hidden.contains symbol || !reports symbol then .ok (l.exported? symbol, r)
  else
    match l.version.encode with
    | .error e => .error e.message
    | .ok version => .ok (l.exported? symbol, ⟨version, l.formatVersion⟩)

/-- The source of the library's symbols, in a process in which something has been reported before.
A symbol is found as itself. -/
def source (l : InProcessLibrary) (before : Reported := {}) : SymbolSource String where
  path := path
  Memory := Reported
  memory := before
  lookup := l.lookup
  version := Reported.version
  formatVersion := Reported.formatVersion

end InProcessLibrary

end SymbolIndex
