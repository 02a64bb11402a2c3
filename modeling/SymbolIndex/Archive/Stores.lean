import SymbolIndex.Archive.Basic
import SymbolIndex.Contents.UnitName

/-!
# Stores of the archive

What is done through an open store changes the contents that it holds, and the document on the
disk follows. A store that listens tells its handler, first of all units that it holds and then
of each unit that is removed. The first notification can be left to the background; it goes to
the handler of the moment when listening began, which is kept until then.
-/

namespace SymbolIndex

open Text (Octets)

namespace ArchiveStore

/-- The notification about units to which the same has happened. -/
def notification (isInitial : Bool) (kind : UnitEventKind) (units : List String) :
    NotificationView where
  isInitial := isInitial
  count := units.length
  events := units.map fun u => some ⟨Vocabulary.code kind, some (Text.octets u)⟩

/-- Gives a notification to the handler, if there is one. -/
def deliver (s : ArchiveStore) (n : NotificationView) : List HandlerCall :=
  s.handler.toList.map fun h => .deliver h n

/-- Delivers what has been left to the background. A handler that has been replaced meanwhile is
released. -/
def deliverPending (s : ArchiveStore) : List HandlerCall × ArchiveStore :=
  match s.pending with
  | none => ([], s)
  | some (h, n) =>
    (.deliver h n :: if s.handler = some h then [] else [.release h], { s with pending := none })

/-- Ends listening, when nothing is left to the background any more. -/
def stopListening (s : ArchiveStore) : List HandlerCall × ArchiveStore :=
  { s with listening := false }.deliverPending

/-- Releases the handler, unless something is still to be delivered to it. -/
def releaseHandler (s : ArchiveStore) : List HandlerCall :=
  match s.handler with
  | none => []
  | some h => if s.pending.any fun p => p.1 == h then [] else [.release h]

/-- Replaces the handler. -/
def setHandler (h : HandlerRef) (s : ArchiveStore) : List HandlerCall × ArchiveStore :=
  (s.releaseHandler, { s with handler := some h })

/-- Ends listening and lets go of the handler. -/
def close (s : ArchiveStore) : List HandlerCall :=
  let (calls, s) := s.stopListening
  calls ++ s.releaseHandler

end ArchiveStore

/-- The call lets go of a handler. -/
def HandlerCall.isRelease : HandlerCall → Bool
  | .release _ => true
  | .deliver .. => false

namespace Archive

/-- Counts the handlers that are let go of. -/
def countReleases (a : Archive) (directory : Path) (calls : List HandlerCall) : Archive :=
  a.enter directory fun t =>
    { t with handlersFinalized := t.handlersFinalized + calls.countP HandlerCall.isRelease }

/-- Changes an open store, with calls of its handler. -/
def withStore (ref : StoreRef) (f : ArchiveStore → List HandlerCall × ArchiveStore)
    (a : Archive) : List HandlerCall × Archive :=
  match a.stores.get? ref with
  | none => ([], a)
  | some s =>
    let (calls, s') := f s
    (calls, { a with stores := a.stores.modify ref fun _ => s' }.countReleases s.directory calls)

/-- Writes the contents of a store to the disk. -/
def persist (a : Archive) (path : String) (contents : StoreContents) : Archive :=
  { a with disk := a.disk.writeStore path contents }

/-- Changes the contents of an open store, and of its document. -/
def changeContents (ref : StoreRef) (f : StoreContents → StoreContents) (a : Archive) : Archive :=
  match a.stores.get? ref with
  | none => a
  | some s =>
    let contents := f s.contents
    { a with stores := a.stores.modify ref fun s => { s with contents } }.persist s.path contents

/-! ### Opening and closing -/

def createStore (octets : Octets) (options : Option OptionsRef) (a : Archive) :
    Created × Archive :=
  let path := Text.decode octets
  let directory := Path.ofText path
  match a.disk.readStore path with
  | .error e => a.refuse directory ("cannot open index store at " ++ path ++ ": " ++ e.message)
  | .ok contents =>
    let mappings := (options.bind a.options.get?).getD []
    let (ref, stores) := a.stores.insert { path, mappings, contents }
    (⟨some ref, none⟩, { a with stores }.enter directory
      fun t => { t with stores := t.stores.create })

def disposeStore (ref : StoreRef) (a : Archive) : List HandlerCall × Archive :=
  match a.stores.get? ref with
  | none => ([], a)
  | some s =>
    let calls := s.close
    (calls, ({ a with stores := a.stores.erase ref }.countReleases s.directory calls).enter
      s.directory fun t => { t with stores := t.stores.dispose })

/-! ### Events -/

def setHandler (ref : StoreRef) (h : HandlerRef) : Archive → List HandlerCall × Archive :=
  withStore ref (ArchiveStore.setHandler h)

/-- Begins to listen, or refuses. -/
def startListening (ref : StoreRef) (wait : Bool) (a : Archive) : ListenAnswer × Archive :=
  match a.stores.get? ref with
  | none => (⟨false, none, []⟩, a)
  | some s =>
    if s.contents.listenFault = .failWithoutError then (⟨false, none, []⟩, a)
    else if s.listening then
      let (e, a) := a.report s.directory "already listening for unit events"
      (⟨false, some e, []⟩, a)
    else
      let first := ArchiveStore.notification true .added s.contents.unitNames
      let calls := if wait then s.deliver first else []
      let pending := if wait then none else s.handler.map fun h => (h, first)
      let s := { s with listening := true, pending }
      let a := { a with stores := a.stores.modify ref fun _ => s }
      if s.contents.listenFault = .succeedWithError then
        let (e, a) := a.report s.directory "stale listener state"
        (⟨true, some e, calls⟩, a)
      else (⟨true, none, calls⟩, a)

def stopListening (ref : StoreRef) : Archive → List HandlerCall × Archive :=
  withStore ref ArchiveStore.stopListening

def background (ref : StoreRef) : Archive → List HandlerCall × Archive :=
  withStore ref ArchiveStore.deliverPending

/-! ### Contents -/

def unitNamesOf (a : Archive) (ref : StoreRef) (sorted : Bool) : List String :=
  match a.stores.get? ref with
  | none => []
  | some s => if sorted then s.contents.sortedUnitNames else s.contents.unitNames

/-- Removes a unit, and tells the handler if the store listens. Without such a unit nothing
happens. -/
def discardUnit (ref : StoreRef) (octets : Octets) (a : Archive) : List HandlerCall × Archive :=
  match a.stores.get? ref with
  | none => ([], a)
  | some s =>
    let name := Text.decode octets
    if (s.contents.unit? name).isNone then ([], a)
    else
      (if s.listening then s.deliver (ArchiveStore.notification false .removed [name]) else [],
        a.changeContents ref fun c => c.discardUnit name)

def discardRecord (ref : StoreRef) (octets : Octets) : Archive → Archive :=
  changeContents ref fun c => c.discardRecord (Text.decode octets)

def purge (ref : StoreRef) : Archive → Archive := changeContents ref StoreContents.purge

/-- Writes the name of the unit of an output file as far as it fits, with a zero behind it. -/
def writeUnitName (octets : Octets) (room : Nat) : NameAnswer :=
  let name := Text.octets (unitName (Text.decode octets))
  ⟨.ofNatClamp name.length, if room = 0 then [] else name.take (room - 1) ++ [0]⟩

def unitTime (ref : StoreRef) (octets : Octets) (a : Archive) : TimeAnswer × Archive :=
  match a.stores.get? ref with
  | none => (⟨true, {}, none⟩, a)
  | some s =>
    let name := Text.decode octets
    match s.contents.unit? name with
    | some u => (⟨false, u.modified, none⟩, a)
    | none =>
      let (e, a) := a.report s.directory ("unit not found: " ++ name)
      (⟨true, {}, some e⟩, a)

end Archive

end SymbolIndex
