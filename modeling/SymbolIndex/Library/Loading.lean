import SymbolIndex.Library.Convention
import SymbolIndex.Library.EntryTable

/-!
# Loading a library

A library is loaded from a source of symbols. Every required operation must be there; the
operations for closures are used only if all of them are, and the class of closures too. Then the
versions that the library reports are checked.
-/

namespace SymbolIndex

/-- What is asked of a library. -/
structure LibraryConfig where
  /-- The library file. It is looked for if none is given. -/
  libraryPath : Option String := none
  requiredVersion : Version := .required
  /-- The format version that the library must have, if any. -/
  requiredFormatVersion : Option UInt32 := none
  /-- Pass closures if the library takes them. -/
  preferClosures : Bool := true

/-- Something in which symbols can be looked up. It may keep something in mind from one look-up to
the next, and a look-up may panic. -/
structure SymbolSource (α : Type) where
  path : String
  /-- What can be kept in mind. -/
  Memory : Type
  /-- What is kept in mind at first. -/
  memory : Memory
  lookup : String → Memory → Except String (Option α × Memory)
  /-- What the library reports as its version. -/
  version : Memory → UInt32
  /-- What the library reports as its format version. -/
  formatVersion : Memory → UInt32

/-- The source of the symbols of a map. It keeps nothing in mind. -/
def SymbolSource.ofMap {α : Type} (path : String) (map : String → Option α)
    (version formatVersion : UInt32) : SymbolSource α where
  path := path
  Memory := Unit
  memory := ()
  lookup symbol _ := .ok (map symbol, ())
  version _ := version
  formatVersion _ := formatVersion

/-- The operations for closures, with the class of closures. -/
structure ClosureTable (α : Type) where
  closureClass : α
  entries : List (String × α)

/-- A library whose symbols have been looked up and whose versions have been accepted. -/
structure LoadedLibrary (α : Type) where
  path : String
  version : Version
  formatVersion : UInt32
  entries : List (String × α)
  closures : Option (ClosureTable α)
  convention : Convention

namespace SymbolSource

variable {α : Type}

/-- A look-up that goes on with what is kept in mind. -/
def look (source : SymbolSource α) (symbol : String) (m : source.Memory) :
    Except Halt (Option α × source.Memory) :=
  (source.lookup symbol m).mapError .panic

/-- Looks up the given operations one after the other. The first one that is missing ends the
look-up. -/
def required (source : SymbolSource α) :
    List Operation → source.Memory → Except Halt (List (String × α) × source.Memory)
  | [], m => .ok ([], m)
  | o :: os, m => do
    match ← source.look o.symbol m with
    | (none, _) => .error (.error (.load (.missingSymbol o.symbol)))
    | (some a, m) =>
      let (resolved, m) ← source.required os m
      return ((o.name, a) :: resolved, m)

/-- Looks up the given operations one after the other: those that are there, and the symbols of
those that are missing. -/
def optional (source : SymbolSource α) : List Operation → source.Memory →
    Except Halt ((List (String × α) × List String) × source.Memory)
  | [], m => .ok (([], []), m)
  | o :: os, m => do
    let (entry, m) ← source.look o.symbol m
    let ((resolved, missing), m) ← source.optional os m
    match entry with
    | some a => return (((o.name, a) :: resolved, missing), m)
    | none => return ((resolved, o.symbol :: missing), m)

/-- The operations for closures, if nothing of them is missing. -/
def closureTable (source : SymbolSource α) (m : source.Memory) :
    Except Halt (Option (ClosureTable α) × source.Memory) := do
  let ((resolved, missing), m) ← source.optional Operation.optionalOnes m
  let (closureClass, m) ← source.look closureClassSymbol m
  match closureClass, missing with
  | some c, [] =>
    match EntryTable.assemble resolved EntryTable.closures with
    | .ok entries => return (some ⟨c, entries⟩, m)
    | .error _ => return (none, m)
  | _, _ => return (none, m)

end SymbolSource

/-- Checks a reported version against a required one. -/
def checkVersion (required reported : Version) : Except VersionError Unit :=
  if required.servedBy reported then .ok ()
  else .error (.incompatible "API" required reported)

/-- Checks a reported format version, if one is required. -/
def checkFormat (required : Option UInt32) (reported : UInt32) : Except VersionError Unit :=
  match required with
  | some r => if r = reported then .ok () else .error (.formatMismatch r reported)
  | none => .ok ()

/-- Loads a library. -/
def SymbolSource.load {α : Type} (source : SymbolSource α) (config : LibraryConfig) :
    Except Halt (LoadedLibrary α) := do
  let (resolved, m) ← source.required Operation.requiredOnes source.memory
  let entries ← (EntryTable.assemble resolved EntryTable.required).mapError fun e =>
    .error (.load e)
  let (closures, m) ← source.closureTable m
  let version := Version.decode (source.version m)
  let formatVersion := source.formatVersion m
  (checkVersion config.requiredVersion version).mapError fun e => .error (.version e)
  (checkFormat config.requiredFormatVersion formatVersion).mapError fun e => .error (.version e)
  return {
    path := source.path
    version
    formatVersion
    entries
    closures
    convention :=
      if config.preferClosures && closures.isSome then .closure else .contextPointer }

end SymbolIndex
