import SymbolIndex.Archive.Disk
import SymbolIndex.Archive.Ledger
import SymbolIndex.Archive.Mapping
import SymbolIndex.Table
import SymbolIndex.Library.Backend

/-!
# The archive

An archive keeps stores as documents on a disk and does what a library is asked to. Each open
store holds the contents as they were when it was opened, with what has been done through it
since. Each open reader holds what its store held when it was opened.
-/

namespace SymbolIndex

open Text (Octets)

/-- An error object. -/
structure ArchiveError where
  /-- The directory for which it is counted. -/
  directory : Path
  description : String

structure ArchiveStore where
  /-- The path of the directory, as it was written. -/
  path : String
  /-- How the store changes the beginnings of paths. -/
  mappings : List (String × String)
  contents : StoreContents
  handler : Option HandlerRef := none
  listening : Bool := false
  /-- The first notification, which is still to be delivered in the background, and the handler
  that gets it. -/
  pending : Option (HandlerRef × NotificationView) := none

/-- The directory for which a store is counted. -/
def ArchiveStore.directory (s : ArchiveStore) : Path := Path.ofText s.path

structure ArchiveRecord where
  directory : Path
  symbols : List SymbolView
  /-- The occurrences in the order of the source. -/
  occurrences : List OccurrenceView

structure ArchiveUnit where
  directory : Path
  view : UnitView
  dependencies : List DependencyView
  includes : List IncludeView

structure Archive where
  disk : Disk := {}
  ledger : Ledger := {}
  errors : Table ArchiveError := {}
  options : Table (List (String × String)) := {}
  stores : Table ArchiveStore := {}
  records : Table ArchiveRecord := {}
  units : Table ArchiveUnit := {}

namespace Archive

/-- Changes what is counted for a directory. -/
def enter (a : Archive) (directory : Path) (f : Tally → Tally) : Archive :=
  { a with ledger := a.ledger.enter directory f }

/-! ### Error objects -/

/-- A new error object. -/
def report (a : Archive) (directory : Path) (description : String) : ErrorRef × Archive :=
  let (ref, errors) := a.errors.insert { directory, description }
  (.own ref, { a with errors }.enter directory fun t => { t with errors := t.errors.create })

/-- A description with blanks in place of zeros. -/
def ArchiveError.octets (e : ArchiveError) : Octets :=
  Text.octets (e.description.map fun c => if c = '\x00' then ' ' else c)

def describeError : ErrorRef → Archive → Option Octets × Archive
  | .own ref, a => ((a.errors.get? ref).map ArchiveError.octets, a)
  | .injected _, a => (none, a)

def disposeError : ErrorRef → Archive → Archive
  | .own ref, a =>
    match a.errors.get? ref with
    | none => a
    | some e =>
      { a with errors := a.errors.erase ref }.enter e.directory
        fun t => { t with errors := t.errors.dispose }
  | .injected _, a => a

/-- The outcome of creating an object that cannot be created. -/
def refuse (a : Archive) (directory : Path) (description : String) : Created × Archive :=
  let (e, a) := a.report directory description
  (⟨none, some e⟩, a)

/-! ### Options -/

def createOptions (a : Archive) : Option OptionsRef × Archive :=
  let (ref, options) := a.options.insert []
  (some ref, { a with options })

def addMapping (ref : OptionsRef) (source target : Octets) (a : Archive) : Archive :=
  { a with options := a.options.modify ref (· ++ [(Text.decode source, Text.decode target)]) }

def disposeOptions (ref : OptionsRef) (a : Archive) : Archive :=
  { a with options := a.options.erase ref }

end Archive

end SymbolIndex
