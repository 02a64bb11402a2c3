import SymbolIndex.Archive.Backend
import SymbolIndex.Events.Listening
import SymbolIndex.Faults.Backend
import SymbolIndex.Session.Named
import SymbolIndex.Session.Scripts
import SymbolIndex.Store.Record
import SymbolIndex.Store.Unit

/-!
# Sessions

A session holds libraries, stores, readers and whatever else its steps have made, each under a
name, and the archive on which they work. Making an object under a name that is in use replaces
the object of that name. A store that is closed takes its readers with it.
-/

namespace SymbolIndex

/-- What the libraries of a session work on. -/
abbrev World := Archive × FaultState

structure Session where
  world : World := ({}, {})
  desk : Desk := {}
  /-- The path of the directory that holds the directories of the session. -/
  base : String := "/"
  /-- The names of the directories of the session. -/
  directories : List String := []
  /-- The faults of the faulty libraries. -/
  plan : FaultPlan := {}
  /-- The identity of the next library. -/
  nextIdentity : Nat := 0
  libraries : Named (Library World) := {}
  options : Named (Options World) := {}
  stores : Named (EventStore World) := {}
  records : Named (RecordReader World) := {}
  units : Named (UnitReader World) := {}
  journals : Named Nat := {}
  receivers : Named Receiver := {}

/-- What a step does: it changes the session and ends with an answer, by way of values or
early. -/
abbrev Act := ExceptT Answer (StateM Session)

namespace Session

/-- What a directory of the session begins with. -/
inductive Holding where
  | nothing
  | contents (c : StoreContents)
  | raw (document : String)

/-- The path of a name, below the base directory. -/
def path (s : Session) (name : String) : String := Path.join s.base name

/-- What is counted for the directory of a name. -/
def tally (s : Session) (name : String) : Tally :=
  s.world.1.ledger.tally (Path.ofText (s.path name))

/-- Changes the disk. -/
def changeDisk (s : Session) (f : Disk → Disk) : Session :=
  { s with world := ({ s.world.1 with disk := f s.world.1.disk }, s.world.2) }

/-- What a holding writes into a directory. -/
def Holding.write (directory : String) (disk : Disk) : Holding → Disk
  | nothing => disk
  | contents c => disk.writeStore directory c
  | raw document => disk.writeFile (Disk.documentPath directory) document

/-- Sets up a directory. -/
def prepare (s : Session) (name : String) (holding : Holding) : Session :=
  s.changeDisk fun disk => holding.write (s.path name) (disk.makeDirectory (s.path name))

/-- A session with some directories in a base directory. -/
def create (base : String) (directories : List (String × Holding)) (plan : FaultPlan) : Session :=
  let s : Session := { base, directories := directories.map Prod.fst, plan }
  directories.foldl (fun s d => s.prepare d.1 d.2)
    (s.changeDisk fun disk => disk.makeDirectory base)

/-! ### Acting -/

/-- The object of a name. -/
def find {α : Type} (kind : String) (objects : Session → Named α) (name : String) : Act α := do
  match (objects (← get)).get? name with
  | some a => return a
  | none => throw (.missing kind name)

def library (name : String) : Act (Library World) := find "lib" libraries name

/-- Acts, and keeps an early answer as a value. -/
def attempt {α : Type} (m : Act α) : Act (Except Answer α) :=
  ExceptT.mk (Except.ok <$> m.run)

/-- Ends with a kept answer. -/
def resume {α : Type} : Except Answer α → Act α
  | .ok a => pure a
  | .error answer => throw answer

/-- Uses the world, and ends with the error if there is one. -/
def use {α : Type} (m : Access World α) : Act α := do
  let s ← get
  let (result, world) := m s.world
  set { s with world }
  match result with
  | .ok a => return a
  | .error h => throw (.failed h)

/-- Uses the world and the desk, and ends with the error if there is one. -/
def useDesk {α : Type} (m : Access (Desk × World) α) : Act α := do
  let s ← get
  let (result, desk, world) := m (s.desk, s.world)
  set { s with desk, world }
  match result with
  | .ok a => return a
  | .error h => throw (.failed h)

/-- Changes the world and the desk. -/
def changeDesk (f : Desk × World → Desk × World) : Act Unit := useDesk (.change f)

/-! ### Closing -/

/-- Closes the record reader of a name, if there is one. -/
def withoutRecord (name : String) (s : Session) : Session :=
  match s.records.get? name with
  | none => s
  | some r => { s with world := r.close s.world, records := s.records.erase name }

/-- Closes the unit reader of a name, if there is one. -/
def withoutUnit (name : String) (s : Session) : Session :=
  match s.units.get? name with
  | none => s
  | some u => { s with world := u.close s.world, units := s.units.erase name }

/-- Closes the readers of a store. -/
def withoutReaders (ref : StoreRef) (s : Session) : Session :=
  let world := (s.records.values.filter fun r => r.store.ref == ref).foldl
    (fun world r => r.close world) s.world
  let world := (s.units.values.filter fun u => u.store.ref == ref).foldl
    (fun world u => u.close world) world
  { s with
    world
    records := s.records.filter fun r => r.store.ref != ref
    units := s.units.filter fun u => u.store.ref != ref }

/-- Closes the store of a name with its readers, if there is one. -/
def withoutStore (name : String) (s : Session) : Session :=
  match s.stores.get? name with
  | none => s
  | some e =>
    let s := s.withoutReaders e.store.ref
    let (desk, world) := e.close (s.desk, s.world)
    { s with desk, world, stores := s.stores.erase name }

/-- Disposes of the options of a name, if there are any. -/
def withoutOptions (name : String) (s : Session) : Session :=
  match s.options.get? name with
  | none => s
  | some o => { s with world := o.dispose s.world, options := s.options.erase name }

/-- Drops the receiver of a name, if there is one. -/
def withoutReceiver (name : String) (s : Session) : Session :=
  match s.receivers.get? name with
  | none => s
  | some r => { s with desk := s.desk.drop r, receivers := s.receivers.erase name }

/-- Closes everything that is open. -/
def close (s : Session) : Session :=
  let s := s.stores.names.foldl (fun s name => s.withoutStore name) s
  s.options.names.foldl (fun s name => s.withoutOptions name) s

/-- Removes an object, and tells whether it was there. -/
def removing (present : Session → Bool) (remove : Session → Session) : Act Bool := do
  let s ← get
  set (remove s)
  return present s

def closeRecord (name : String) : Act Bool :=
  removing (fun s => s.records.contains name) (withoutRecord name)

def closeUnit (name : String) : Act Bool :=
  removing (fun s => s.units.contains name) (withoutUnit name)

def closeStore (name : String) : Act Bool :=
  removing (fun s => s.stores.contains name) (withoutStore name)

def dropOptions (name : String) : Act Bool :=
  removing (fun s => s.options.contains name) (withoutOptions name)

def dropReceiver (name : String) : Act Bool :=
  removing (fun s => s.receivers.contains name) (withoutReceiver name)

end Session

end SymbolIndex
