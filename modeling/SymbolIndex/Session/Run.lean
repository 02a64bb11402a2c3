import SymbolIndex.Session.Basic

/-!
# Running a session

Steps are run one after the other. What a library does in the background is done after each step.
In the end everything that is open is closed, and the tallies of the directories are read.
-/

namespace SymbolIndex

namespace Session

/-! ### Libraries and options -/

/-- Loads a library of the process. -/
def load (name : String) (source : InProcessLibrary) (faulty : Bool) (config : LibraryConfig) :
    Act Answer := do
  match source.source.load config with
  | .error h => throw (.failed h)
  | .ok loaded =>
    let s ← get
    let honest : Backend World := Archive.backend.beside
    let l : Library World := {
      identity := s.nextIdentity
      path := loaded.path
      version := loaded.version
      formatVersion := loaded.formatVersion
      hasClosures := loaded.closures.isSome
      convention := loaded.convention
      backend := if faulty then honest.withFaults s.plan else honest }
    set { s with nextIdentity := s.nextIdentity + 1, libraries := s.libraries.insert name l }
    return .library l.version l.formatVersion l.hasClosures l.convention

/-- Makes options. Options of that name are disposed of when the new ones are there. -/
def newOptions (name library : String) : Act Answer := do
  let l ← Session.library library
  let o ← use (Options.create l)
  modify (withoutOptions name)
  modify fun s => { s with options := s.options.insert name o }
  return .nothing

def addMapping (name source target : String) : Act Answer := do
  let o ← find "options" options name
  let o ← use (o.add source target)
  modify fun s => { s with options := s.options.insert name o }
  return .mappings o.mappings

/-- Opens a store. A store of that name is closed before anything else. -/
def openStore (library name directory : String) (options : Option String) : Act Answer := do
  modify (withoutStore name)
  let l ← Session.library library
  let o ← match options with
    | none => pure none
    | some o => some <$> find "options" Session.options o
  let store ← use (Store.openAt l ((← get).path directory) o)
  modify fun s => { s with stores := s.stores.insert name { store } }
  return .openedStore store.path

def inspect : Inspected → Act Answer
  | .library name => return .text (← library name).inspect
  | .options name => return .text (← find "options" options name).inspect
  | .store name => return .text (← find "store" stores name).store.inspect
  | .record name => return .text (← find "record" records name).inspect
  | .unit name => return .text (← find "unit" units name).inspect

/-! ### Directories -/

def disk (name : String) : Act Answer := do
  let s ← get
  match s.world.1.disk.readStore (s.path name) with
  | .ok contents => return .contents contents
  | .error e => return .unreadable e

def removeDirectory (name : String) : Act Answer := do
  modify fun s => s.changeDisk fun disk => disk.removeDirectory (s.path name)
  return .nothing

/-! ### Traversals -/

/-- Notes an item without the library. -/
def noted {α : Type} (f : α → Item) (a : α) (world : World) : Item × World := (f a, world)

/-- Runs a listing with a scripted applier. -/
def traverse {α : Type} (script : Script) (listing : Listing World α)
    (note : α → World → Item × World) : Act Answer := do
  let s ← get
  let (t, world) := script.run listing note s.world
  set { s with world }
  return .traversed t

/-- A symbol, by its name or with everything that is shown of it. -/
def noteSymbol (full : Bool) (v : SymbolView) : Item :=
  if full then .symbol v else .text (Text.read v.name)

/-- An occurrence, by its place or with everything that can be copied of it. -/
def noteOccurrence (l : Library World) (full : Bool) (o : OccurrenceView) (world : World) :
    Item × World :=
  if full then
    let (info, world) := l.occurrenceInfo o world
    (.occurrence info, world)
  else (.place o.line o.column, world)

/-- A relation, by its roles and the name of its symbol. -/
def noteRelation (l : Library World) (r : RelationView) (world : World) :
    Except Halt (UInt64 × String) × World :=
  let (symbol, world) := l.relationSymbol r world
  (symbol.map fun v => (r.roles, Text.read v.name), world)

/-- The relations of an occurrence. -/
def noteRelations (l : Library World) (script : Script) (o : OccurrenceView) (world : World) :
    Item × World :=
  let (t, world) := script.run (l.relations o) (noteRelation l) world
  (.relations t, world)

/-! ### Records -/

/-- The symbol of a choice. -/
def chosen (c : SymbolChoice) : Act HeldSymbol := do
  match (← get).records.get? c.record with
  | none => throw (.unchosen "record")
  | some r =>
    match (← use r.cachedSymbols)[c.index]? with
    | some h => return h
    | none => throw (.unchosen "symbol")

/-- Chooses the occurrences of a record. Both lists of symbols are looked up, and an error in the
first one comes first. Symbols of another library choose nothing. -/
def chooseOccurrences (r : RecordReader World) :
    OccurrenceChoice → Act (Except Error (Listing World OccurrenceView))
  | .all => return .ok r.occurrences
  | .lines start count => return .ok (r.occurrencesOnLines start count)
  | .ofSymbols symbols related => do
    let symbols ← attempt (symbols.mapM chosen)
    let related ← attempt (related.mapM chosen)
    let symbols ← resume symbols
    let related ← resume related
    return r.occurrencesOfSymbols symbols related

def search (r : RecordReader World) (script : SearchScript) : Act Answer := do
  let s ← get
  let (result, notes, world) := r.search script.searcher ({}, s.world)
  set { s with world }
  return .searched ⟨notes.seen.reverse.map .text, result⟩ notes.received.reverse

def runRecord (r : RecordReader World) : RecordStep → Act Answer
  | .symbolInfos => return .symbols (← use r.symbolInfos)
  | .cachedSymbols => return .cachedSymbols ((← use r.cachedSymbols).map HeldSymbol.view)
  | .occurrenceInfos => return .occurrences (← use r.occurrenceInfos)
  | .symbols full script => traverse script r.symbols (noted (noteSymbol full))
  | .occurrences choice full script => do
    match ← chooseOccurrences r choice with
    | .ok listing => traverse script listing (noteOccurrence r.library full)
    | .error e => return .traversed ⟨[], .error (.error e)⟩
  | .relations script relationScript =>
    traverse script r.occurrences (noteRelations r.library relationScript)
  | .search script => search r script

/-! ### Units -/

def runUnit (u : UnitReader World) : UnitStep → Act Answer
  | .info => return .unit (← use u.info)
  | .mainFile => do
    let v ← use u.view
    return .mainFile v.hasMainFile (Text.read v.mainFile)
  | .dependencyInfos => return .dependencies (← use u.dependencyInfos)
  | .includeInfos => return .includes (← use u.includeInfos)
  | .dependencies script =>
    traverse script u.dependencies (noted fun v => .dependency v.kind (Text.read v.name))
  | .includes script =>
    traverse script u.includes (noted fun v => .inclusion v.sourceLine (Text.read v.targetPath))

/-! ### Stores -/

/-- Opens a record reader. A reader of that name is closed before. -/
def openRecord (store : Store World) (name record : String) : Act Answer := do
  modify (withoutRecord name)
  let r ← use (RecordReader.openIn store record)
  modify fun s => { s with records := s.records.insert name r }
  return .openedReader r.name

/-- Opens a unit reader. A reader of that name is closed before. -/
def openUnit (store : Store World) (name unit : String) : Act Answer := do
  modify (withoutUnit name)
  let u ← use (UnitReader.openIn store unit)
  modify fun s => { s with units := s.units.insert name u }
  return .openedReader u.name

/-- Installs a handler that writes into a fresh journal. -/
def setHandler (name : String) (e : EventStore World) (handler : String) : Act Answer := do
  let s ← get
  let (journal, desk) := s.desk.journal
  set { s with desk, journals := s.journals.insert handler journal }
  let e ← useDesk (e.setHandler (.journal journal))
  modify fun s => { s with stores := s.stores.insert name e }
  return .nothing

/-- Adds a receiver. A receiver of that name is dropped when the new one is there. -/
def subscribe (name : String) (e : EventStore World) (receiver : String) : Act Answer := do
  let (r, e) ← useDesk e.subscribe
  modify (withoutReceiver receiver)
  modify fun s =>
    { s with stores := s.stores.insert name e, receivers := s.receivers.insert receiver r }
  return .nothing

def runStore (name : String) (e : EventStore World) : StoreStep → Act Answer
  | .unitNames sorted => return .texts (← use (e.store.unitNames sorted))
  | .unitNamesFiltered includeSystem =>
    return .texts (← use (e.store.unitNamesFiltered includeSystem))
  | .units sorted script => traverse script (e.store.units sorted) (noted .text)
  | .unitName outputPath => return .text (← use (e.store.unitName outputPath))
  | .unitTime unit => return .time (← use (e.store.unitTime unit))
  | .discardUnit unit => do
    useDesk (e.discardUnit unit)
    return .nothing
  | .discardRecord record => do
    use (e.store.discardRecord record)
    return .nothing
  | .purge => do
    use e.store.purge
    return .nothing
  | .openRecord reader record => openRecord e.store reader record
  | .openUnit reader unit => openUnit e.store reader unit
  | .setHandler handler => setHandler name e handler
  | .subscribe receiver => subscribe name e receiver
  | .start wait => do
    useDesk (e.start wait)
    return .nothing
  | .stop => do
    changeDesk e.stop
    return .nothing
  | .command command format =>
    return .output ((← use (command.report e.store)).render format)

/-! ### Events -/

def takeJournal (handler : String) : Act Answer := do
  let journal ← find "handler" journals handler
  let s ← get
  let (notifications, desk) := s.desk.takeJournal journal
  set { s with desk }
  return .notifications notifications

def receiveAll (receiver : String) : Act Answer := do
  let r ← find "rx" receivers receiver
  let s ← get
  let (batches, desk) := s.desk.drain r
  set { s with desk }
  return .batches batches (desk.connected r)

def receive (receiver : String) : Act Answer := do
  let r ← find "rx" receivers receiver
  let s ← get
  let (batch, desk) := s.desk.receive r
  set { s with desk }
  match batch with
  | some b => return .batch b
  | none => return .disconnected

/-! ### Steps -/

def act : Step → Act Answer
  | .load library source faulty config => load library source faulty config
  | .sameLibrary name other => do
    let l ← library name
    return .flag (l.same (← find "other" libraries other))
  | .cloneLibrary name copy => do
    let l ← library name
    modify fun s => { s with libraries := s.libraries.insert copy l }
    return .nothing
  | .newOptions options library => newOptions options library
  | .addMapping options source target => addMapping options source target
  | .dropOptions options => return .flag (← dropOptions options)
  | .openStore library store directory options => openStore library store directory options
  | .closeStore store => return .flag (← closeStore store)
  | .inspect what => inspect what
  | .tally directory => return .tally ((← get).tally directory)
  | .faultErrors => return .count (← get).world.2.errors
  | .disk directory => disk directory
  | .removeDirectory directory => removeDirectory directory
  | .withStore store step => do runStore store (← find "store" stores store) step
  | .closeRecord record => return .flag (← closeRecord record)
  | .withRecord record step => do runRecord (← find "record" records record) step
  | .closeUnit unit => return .flag (← closeUnit unit)
  | .withUnit unit step => do runUnit (← find "unit" units unit) step
  | .takeJournal handler => takeJournal handler
  | .receiveAll receiver => receiveAll receiver
  | .receive receiver => receive receiver
  | .dropReceiver receiver => return .flag (← dropReceiver receiver)

/-- Does what the libraries of open stores do in the background. -/
def settle (s : Session) : Session :=
  s.stores.values.foldl
    (fun s e =>
      let (desk, world) := e.background (s.desk, s.world)
      { s with desk, world })
    s

/-- Runs a step, and what happens in the background after it. -/
def step (s : Session) (step : Step) : LoggedAnswer × Session :=
  let (result, s) := (act step).run.run s
  let answer := match result with
    | .ok answer => answer
    | .error answer => answer
  let (calls, faults) := s.world.2.takeLog
  (⟨answer, calls⟩, { s with world := (s.world.1, faults) }.settle)

/-- Runs steps one after the other. -/
def steps : List Step → Session → List LoggedAnswer × Session
  | [], s => ([], s)
  | t :: ts, s =>
    let (answer, s) := s.step t
    let (answers, s) := steps ts s
    (answer :: answers, s)

/-- What is counted for each directory of the session. -/
def tallies (s : Session) : List (String × Tally) := s.directories.map fun d => (d, s.tally d)

/-- Runs a session from its directories on: the answers, and what has been counted when everything
is closed. -/
def run (base : String) (directories : List (String × Holding)) (plan : FaultPlan)
    (list : List Step) : List LoggedAnswer × List (String × Tally) :=
  let (answers, s) := steps list (create base directories plan)
  (answers, s.close.tallies)

end Session

end SymbolIndex
