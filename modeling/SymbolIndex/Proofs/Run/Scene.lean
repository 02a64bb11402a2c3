import SymbolIndex.Events.Listening
import SymbolIndex.Proofs.Accounts.Archive
import SymbolIndex.Proofs.Archive.Handout

/-!
# Clients of the archive

A client opens stores and readers of the archive, uses them, and closes them again, in any order
and at its own discretion. What it does is a program, and so is what it does with each item that
it is handed: it may open and close and hand out again in the midst of a traversal. Where an
operation is run through a library, the library has the archive behind it.
-/

namespace SymbolIndex

variable {α β : Type}

/-- The directory of a store, as stores are counted. -/
def Store.directory {σ : Type} (store : Store σ) : Path := Path.ofText store.path

/-- A library with an archive behind it. -/
def Library.ofArchive (convention : Convention) : Library Archive where
  identity := 0
  path := "archive"
  version := .required
  formatVersion := 13
  hasClosures := true
  convention := convention
  backend := Archive.backend

/-- Something in which the batches of a handler gather: a journal, or the queue of a receiver. -/
inductive Watcher where
  | journal (journal : Nat)
  | receiver (r : Receiver)
deriving DecidableEq

/-- What a client holds. -/
structure Holdings where
  desk : Desk := {}
  options : List (Options Archive) := []
  stores : List (EventStore Archive) := []
  records : List (RecordReader Archive) := []
  units : List (UnitReader Archive) := []
  receivers : List Receiver := []
  /-- The batches that have been taken out up to now, first one first. -/
  taken : List (Watcher × EventBatch) := []
  /-- The uses of directories up to now, first one first. -/
  uses : List Use := []

/-- What a client holds, and the archive. -/
abbrev Scene := Holdings × Archive

namespace Holdings

variable (h : Holdings)

def option? (ref : OptionsRef) : Option (Options Archive) := h.options.find? fun o => o.ref == ref

def store? (ref : StoreRef) : Option (EventStore Archive) :=
  h.stores.find? fun e => e.store.ref == ref

def record? (ref : RecordRef) : Option (RecordReader Archive) :=
  h.records.find? fun r => r.ref == ref

def unit? (ref : UnitRef) : Option (UnitReader Archive) := h.units.find? fun u => u.ref == ref

/-- Notes the use of a directory. -/
def note (u : Use) : Holdings := { h with uses := h.uses ++ [u] }

/-- Puts a store in the place of the one with its reference. -/
def update (e : EventStore Archive) : Holdings :=
  { h with stores := h.stores.map fun e' => if e'.store.ref = e.store.ref then e else e' }

/-- What is held, by references and directories. -/
def held : Rolls
  | .store => h.stores.map fun e => (e.store.ref, e.store.directory)
  | .record => h.records.map fun r => (r.ref, r.store.directory)
  | .unit => h.units.map fun u => (u.ref, u.store.directory)
  | .error => []

end Holdings

namespace Scene

/-- Nothing is held of an archive that has just been set up. -/
def start (disk : Disk) : Scene := ({}, { disk })

/-- Uses the archive, and keeps what comes of it. -/
def use (m : Access Archive α) (keep : α → Holdings → Holdings := fun _ h => h) :
    Access Scene Unit := fun s =>
  match m s.2 with
  | (.ok x, a) => (.ok (), keep x s.1, a)
  | (.error e, a) => (.error e, s.1, a)

/-- Uses the archive and the event desk, and keeps what comes of it. -/
def useDesk (m : Access (Desk × Archive) α) (keep : α → Holdings → Holdings := fun _ h => h) :
    Access Scene Unit := fun s =>
  match m (s.1.desk, s.2) with
  | (.ok x, desk, a) => (.ok (), keep x { s.1 with desk }, a)
  | (.error e, desk, a) => (.error e, { s.1 with desk }, a)

end Scene

/-! ### Single operations -/

/-- An operation on an open store. -/
inductive StoreDeed where
  | unitNames (sorted : Bool)
  | unitNamesFiltered (includeSystem : Bool)
  | unitName (outputPath : String)
  | unitTime (unit : String)
  | discardUnit (unit : String)
  | discardRecord (record : String)
  | purge
  | openRecord (record : String)
  | openUnit (unit : String)
  | setHandler (journal : Nat)
  | subscribe
  | start (wait : Bool)
  | stop
  /-- What the library does in the background. -/
  | background
  | close

namespace StoreDeed

/-- Whether a handler is installed. -/
def installs (e : EventStore Archive) : StoreDeed → Bool
  | setHandler _ => true
  | subscribe => e.feed.isNone
  | _ => false

def act (e : EventStore Archive) : StoreDeed → Access Scene Unit
  | unitNames sorted => Scene.use (e.store.unitNames sorted)
  | unitNamesFiltered includeSystem => Scene.use (e.store.unitNamesFiltered includeSystem)
  | unitName outputPath => Scene.use (e.store.unitName outputPath)
  | unitTime unit => Scene.use (e.store.unitTime unit)
  | discardUnit unit => Scene.useDesk (e.discardUnit unit)
  | discardRecord record => Scene.use (e.store.discardRecord record)
  | purge => Scene.use e.store.purge
  | openRecord record =>
    Scene.use (RecordReader.openIn e.store record) fun r h => { h with records := h.records ++ [r] }
  | openUnit unit =>
    Scene.use (UnitReader.openIn e.store unit) fun u h => { h with units := h.units ++ [u] }
  | setHandler journal => Scene.useDesk (e.setHandler (.journal journal)) fun e h => h.update e
  | subscribe =>
    Scene.useDesk e.subscribe fun x h =>
      { h.update x.2 with receivers := h.receivers ++ [x.1] }
  | start wait => Scene.useDesk (e.start wait)
  | stop => Scene.useDesk (.change e.stop)
  | background => Scene.useDesk (.change e.background)
  | close =>
    Scene.useDesk (.change e.close) fun _ h =>
      { h with stores := h.stores.filter fun e' => e'.store.ref != e.store.ref }

/-- A subscriber gets an end of the feed of the store. -/
theorem act_subscribe (e : EventStore Archive) (s : Scene) :
  let y := e.ownFeed (s.1.desk, s.2)
  subscribe.act e s
    = (.ok (),
        { s.1.update { e with feed := some y.1 } with
          desk := (y.2.1.subscribe y.1).2
          receivers := s.1.receivers ++ [(y.2.1.subscribe y.1).1] }, y.2.2)
  := rfl

/-- An operation on a store that is held. It uses the directory of the store. -/
def run (ref : StoreRef) (deed : StoreDeed) : Access Scene Unit := fun s =>
  match s.1.store? ref with
  | none => (.ok (), s)
  | some e => deed.act e (s.1.note ⟨e.store.directory, deed.installs e⟩, s.2)

end StoreDeed

/-- An operation on an open record reader. -/
inductive RecordDeed where
  | symbolInfos
  | cachedSymbols
  | occurrenceInfos
  | close

namespace RecordDeed

def act (r : RecordReader Archive) : RecordDeed → Access Scene Unit
  | symbolInfos => Scene.use r.symbolInfos
  | cachedSymbols => Scene.use r.cachedSymbols
  | occurrenceInfos => Scene.use r.occurrenceInfos
  | close =>
    Scene.use (.change r.close) fun _ h =>
      { h with records := h.records.filter fun r' => r'.ref != r.ref }

/-- An operation on a record reader that is held. It uses the directory of its store. -/
def run (ref : RecordRef) (deed : RecordDeed) : Access Scene Unit := fun s =>
  match s.1.record? ref with
  | none => (.ok (), s)
  | some r => deed.act r (s.1.note ⟨r.store.directory, false⟩, s.2)

end RecordDeed

/-- An operation on an open unit reader. -/
inductive UnitDeed where
  | view
  | info
  | dependencyInfos
  | includeInfos
  | close

namespace UnitDeed

def act (u : UnitReader Archive) : UnitDeed → Access Scene Unit
  | view => Scene.use u.view
  | info => Scene.use u.info
  | dependencyInfos => Scene.use u.dependencyInfos
  | includeInfos => Scene.use u.includeInfos
  | close =>
    Scene.use (.change u.close) fun _ h =>
      { h with units := h.units.filter fun u' => u'.ref != u.ref }

/-- An operation on a unit reader that is held. It uses the directory of its store. -/
def run (ref : UnitRef) (deed : UnitDeed) : Access Scene Unit := fun s =>
  match s.1.unit? ref with
  | none => (.ok (), s)
  | some u => deed.act u (s.1.note ⟨u.store.directory, false⟩, s.2)

end UnitDeed

/-- An operation on an item of a traversal. -/
inductive ItemDeed where
  | occurrenceSymbol (v : OccurrenceView)
  | occurrenceInfo (v : OccurrenceView)
  | relationSymbol (v : RelationView)
  | relationInfo (v : RelationView)

def ItemDeed.run (l : Library Archive) : ItemDeed → Access Scene Unit
  | occurrenceSymbol v => Scene.use (l.occurrenceSymbol v)
  | occurrenceInfo v => Scene.use (l.occurrenceInfo v)
  | relationSymbol v => Scene.use (l.relationSymbol v)
  | relationInfo v => Scene.use (l.relationInfo v)

/-- What a client does with its journals and receivers. -/
inductive DeskDeed where
  | newJournal
  | takeJournal (journal : Nat)
  | receive (r : Receiver)
  | drain (r : Receiver)
  | drop (r : Receiver)

def DeskDeed.act (d : Desk) : DeskDeed → Desk
  | newJournal => d.journal.2
  | takeJournal journal => (d.takeJournal journal).2
  | receive r => (d.receive r).2
  | drain r => (d.drain r).2
  | drop r => d.drop r

/-- The batches that are taken out. -/
def DeskDeed.taken (d : Desk) : DeskDeed → List (Watcher × EventBatch)
  | newJournal => []
  | takeJournal journal =>
    (d.takeJournal journal).1.map fun n => (.journal journal, n.batch)
  | receive r => (d.receive r).1.toList.map fun batch => (.receiver r, batch)
  | drain r => (d.drain r).1.map fun batch => (.receiver r, batch)
  | drop _ => []

/-- An operation on the event desk. -/
def DeskDeed.run (deed : DeskDeed) : Access Scene Unit :=
  .change fun s =>
    ({ s.1 with
        desk := deed.act s.1.desk
        taken := s.1.taken ++ deed.taken s.1.desk }, s.2)

/-- An operation, of a library that has the archive behind it or on something that is held. -/
inductive Deed where
  | changeDisk (f : Disk → Disk)
  | onDesk (deed : DeskDeed)
  | createOptions (l : Library Archive)
  | addMapping (options : OptionsRef) (source target : String)
  | disposeOptions (options : OptionsRef)
  | openStore (l : Library Archive) (path : String) (options : Option OptionsRef)
  | onStore (store : StoreRef) (deed : StoreDeed)
  | onRecord (record : RecordRef) (deed : RecordDeed)
  | onUnit (unit : UnitRef) (deed : UnitDeed)
  | onItem (l : Library Archive) (deed : ItemDeed)

/-- An operation on something that is not held does nothing. -/
def Deed.run : Deed → Access Scene Unit
  | changeDisk f => Scene.use (.change fun a => { a with disk := f a.disk })
  | onDesk deed => deed.run
  | createOptions l =>
    Scene.use (Options.create (l.withArchive l.convention)) fun o h =>
      { h with options := h.options ++ [o] }
  | addMapping options source target => fun s =>
    match s.1.option? options with
    | none => (.ok (), s)
    | some o =>
      Scene.use (o.add source target) (fun o h =>
        { h with options := h.options.map fun o' => if o'.ref = o.ref then o else o' }) s
  | disposeOptions options => fun s =>
    match s.1.option? options with
    | none => (.ok (), s)
    | some o =>
      Scene.use (.change o.dispose) (fun _ h =>
        { h with options := h.options.filter fun o' => o'.ref != options }) s
  | openStore l path options => fun s =>
    Scene.use (Store.openAt (l.withArchive l.convention) path (options.bind s.1.option?))
      (fun store h => { h with stores := h.stores ++ [{ store }] })
      (s.1.note ⟨Path.ofText path, false⟩, s.2)
  | onStore store deed => deed.run store
  | onRecord record deed => deed.run record
  | onUnit unit deed => deed.run unit
  | onItem l deed => deed.run (l.withArchive l.convention)

theorem Deed.run_onStore_of_none {s : Scene} {ref : StoreRef} (he : s.1.store? ref = none)
    (deed : StoreDeed) :
  (onStore ref deed).run s = (.ok (), s)
  := by
  simp only [run, StoreDeed.run, he]

theorem Deed.run_onStore {s : Scene} {ref : StoreRef} {e : EventStore Archive}
    (he : s.1.store? ref = some e) (deed : StoreDeed) :
  (onStore ref deed).run s
    = deed.act e (s.1.note ⟨e.store.directory, deed.installs e⟩, s.2)
  := by
  simp only [run, StoreDeed.run, he]

namespace Scene

/-- What an operation on a store leaves. -/
def after (s : Scene) (ref : StoreRef) (deed : StoreDeed) : Scene :=
  ((Deed.onStore ref deed).run s).2

/-- An operation on a store ends without an error. -/
def Succeeds (s : Scene) (ref : StoreRef) (deed : StoreDeed) : Prop :=
  ((Deed.onStore ref deed).run s).1 = .ok ()

end Scene

/-! ### Traversals -/

/-- A traversal that hands out items of some type. -/
inductive Reading : Type → Type where
  | units (store : StoreRef) (sorted : Bool) : Reading String
  | symbols (record : RecordRef) : Reading SymbolView
  | occurrences (record : RecordRef) : Reading OccurrenceView
  | occurrencesOnLines (record : RecordRef) (start count : UInt32) : Reading OccurrenceView
  | occurrencesOfSymbols (record : RecordRef) (wanted related : List HeldSymbol) :
      Reading OccurrenceView
  | relations (l : Library Archive) (v : OccurrenceView) : Reading RelationView
  | dependencies (unit : UnitRef) : Reading DependencyView
  | includes (unit : UnitRef) : Reading IncludeView

namespace Reading

/-- The operation, or the refusal, if what it is asked of is held. -/
def listing? (h : Holdings) : Reading α → Option (Except Error (Listing Archive α))
  | units store sorted => (h.store? store).map fun e => .ok (e.store.units sorted)
  | symbols record => (h.record? record).map fun r => .ok r.symbols
  | occurrences record => (h.record? record).map fun r => .ok r.occurrences
  | occurrencesOnLines record start count =>
    (h.record? record).map fun r => .ok (r.occurrencesOnLines start count)
  | occurrencesOfSymbols record wanted related =>
    (h.record? record).map fun r => r.occurrencesOfSymbols wanted related
  | relations l v => some (.ok ((l.withArchive l.convention).relations v))
  | dependencies unit => (h.unit? unit).map fun u => .ok u.dependencies
  | includes unit => (h.unit? unit).map fun u => .ok u.includes

/-- The directory that is used. -/
def directory? (h : Holdings) : Reading α → Option Path
  | units store _ => (h.store? store).map fun e => e.store.directory
  | symbols record | occurrences record | occurrencesOnLines record _ _
  | occurrencesOfSymbols record _ _ => (h.record? record).map fun r => r.store.directory
  | relations _ _ => none
  | dependencies unit | includes unit => (h.unit? unit).map fun u => u.store.directory

/-- What is held when the traversal begins. The use of the directory is noted. -/
def begun (h : Holdings) (t : Reading α) : Holdings :=
  match t.directory? h with
  | some d => h.note ⟨d, false⟩
  | none => h

/-- Runs an applier. Of something that is not held nothing is handed out. -/
def apply (t : Reading α) (f : Applier Scene α) : Access Scene Outcome := fun s =>
  match t.listing? s.1 with
  | none => (.ok .completed, s)
  | some (.error e) => (.error (.error e), t.begun s.1, s.2)
  | some (.ok listing) => listing.apply f (t.begun s.1, s.2)

/-- Searches a record that is held. -/
def search (record : RecordRef) (f : Searcher Scene SymbolView) : Access Scene Outcome := fun s =>
  match s.1.record? record with
  | none => (.ok .completed, s)
  | some r => r.search f (s.1.note ⟨r.store.directory, false⟩, s.2)

end Reading

/-! ### Programs -/

/-- What a client does, up to an answer. -/
inductive Program : Type → Type 1 where
  | answer {β : Type} (b : β) : Program β
  /-- Goes on by all that there is. -/
  | look {β : Type} (next : Scene → Program β) : Program β
  /-- Does something, and goes on with how that has ended. -/
  | perform {β : Type} (deed : Deed) (next : Except Halt Unit → Program β) : Program β
  /-- Does something with each item of a traversal up to the first one at which it is said to stop
  or panics, and goes on with how that has ended. -/
  | handOut {α β : Type} (t : Reading α) (visit : α → Program Reply)
      (next : Except Halt Outcome → Program β) : Program β
  /-- Searches a record. The receiver may panic. -/
  | search {β : Type} (record : RecordRef) (filter : SymbolView → Program FilterReply)
      (receive : SymbolView → Program (Option String))
      (next : Except Halt Outcome → Program β) : Program β

namespace Program

def run {β : Type} : Program β → Scene → β × Scene
  | answer b, s => (b, s)
  | look next, s => (next s).run s
  | perform deed next, s =>
    match deed.run s with
    | (result, s) => (next result).run s
  | handOut t visit next, s =>
    match t.apply (fun item => (visit item).run) s with
    | (result, s) => (next result).run s
  | search record filter receive next, s =>
    let f : Searcher Scene SymbolView :=
      { filter := fun v => (filter v).run, receive := fun v => (receive v).run }
    match Reading.search record f s with
    | (result, s) => (next result).run s

/-- One operation and nothing else. -/
def deed (d : Deed) : Program Unit := .perform d fun _ => .answer ()

/-- Operations one after the other, however they end. -/
def deeds (ds : List Deed) : Program Unit :=
  ds.foldr (fun d p => .perform d fun _ => p) (.answer ())

end Program

end SymbolIndex
