import SymbolIndex.Text.Utf8
import SymbolIndex.Timestamp

/-!
# What a library shows

The items of traversals, and the other things that a library lets its callers look at. Texts are
octets, and a text may be missing. Kinds and sets of flags are numbers.
-/

namespace SymbolIndex

open Text (Octets)

/-- A symbol as a library tells symbols apart: by the reader it was read through, and by its
place there. -/
structure SymbolRef where
  reader : Nat
  index : Nat
deriving DecidableEq

structure SymbolView where
  ref : SymbolRef
  name : Option Octets
  usr : Option Octets
  codegenName : Option Octets
  kind : UInt32
  subKind : UInt32
  language : UInt32
  properties : UInt64
  roles : UInt64
  relatedRoles : UInt64

/-- A relation of an occurrence to a symbol. -/
structure RelationView where
  symbol : SymbolView
  roles : UInt64

structure OccurrenceView where
  symbol : SymbolView
  roles : UInt64
  line : UInt32
  column : UInt32
  relations : List RelationView

structure DependencyView where
  kind : UInt32
  isSystem : Bool
  filePath : Option Octets
  moduleName : Option Octets
  name : Option Octets

structure IncludeView where
  sourcePath : Option Octets
  targetPath : Option Octets
  sourceLine : UInt32

structure UnitView where
  providerIdentifier : Option Octets
  providerVersion : Option Octets
  modified : Timestamp
  isSystem : Bool
  isModule : Bool
  isDebug : Bool
  hasMainFile : Bool
  mainFile : Option Octets
  moduleName : Option Octets
  workingDir : Option Octets
  outputFile : Option Octets
  sysrootPath : Option Octets
  target : Option Octets

structure EventView where
  kind : UInt32
  unitName : Option Octets

/-- What a handler is told: the number of events that is claimed, and the events that can be
had. -/
structure NotificationView where
  isInitial : Bool
  count : Nat
  events : List (Option EventView)

/-- The event at a position before the claimed end, if it can be had. -/
def NotificationView.event? (n : NotificationView) (i : Nat) : Option EventView :=
  if i < n.count then n.events[i]?.join else none

/-- The events before the claimed end that can be had. -/
def NotificationView.available (n : NotificationView) : List EventView :=
  (n.events.take n.count).filterMap id

end SymbolIndex
