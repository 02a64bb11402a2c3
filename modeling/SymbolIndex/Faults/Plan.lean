import SymbolIndex.Library.Backend

/-!
# Plans of faults

A plan says in which ways a library is to break its rules. The blank plan lets it keep them all.
-/

namespace SymbolIndex

open Text (Octets)

/-- Faults of an operation that hands out items. -/
structure ListingFault where
  /-- The operation goes on after a stop. -/
  ignoreStop : Bool := false
  /-- The operation ends after this many items, if there are more. -/
  truncate : Option Nat := none
  /-- What the operation returns, whatever it has done. -/
  returns : Option Bool := none

/-- Faults of a search. -/
structure SearchFault where
  /-- The search goes on after a stop. -/
  ignoreStop : Bool := false
  /-- The filter has no way to ask for a stop. -/
  hideStop : Bool := false
  /-- Every item counts as accepted. -/
  receiveAll : Bool := false
  /-- No item is given to the receiver. -/
  skipReceiver : Bool := false
  /-- Each item is given to the receiver twice. -/
  receiveTwice : Bool := false
  /-- The items are given to the receiver when the filter has seen all of them. -/
  receiveLate : Bool := false
  /-- What the search returns, whatever it has done. -/
  returns : Option Bool := none

/-- The operations that create an object. -/
inductive Creator where
  | options
  | store
  | storeWithOptions
  | recordReader
  | unitReader
deriving DecidableEq

/-- Faults of asking for a modification time. -/
inductive TimeFault where
  /-- A failure is reported without an error object. -/
  | failWithoutError
  /-- An error object comes with each success. -/
  | succeedWithError
deriving DecidableEq

/-- Faults of asking for a name. -/
structure NameFault where
  /-- The lengths that are answered, one after the other. The last one is repeated. -/
  lengths : List Nat := []
  /-- The octets that are written, over and over. -/
  fill : Octets := []

/-- Faults of notifications. -/
structure EventFault where
  kind : Option UInt32 := none
  /-- The places at which no event can be had. -/
  missing : List Nat := []
  count : Option Nat := none
  unitName : Option Octets := none

/-- The texts for which others can be shown. -/
inductive TextField where
  | symbolName
  | symbolUsr
  | symbolCodegenName
  | unitModuleName
  | unitMainFile
  | dependencyName
  | includeTargetPath
deriving DecidableEq

structure FaultPlan where
  /-- The faults of the operations that hand out items, by name. -/
  listings : List (String × ListingFault) := []
  search : SearchFault := {}
  /-- The operations that create nothing. -/
  failing : List Creator := []
  /-- The operations that give an error object of their own. -/
  straying : List Creator := []
  /-- The description of the error objects that are put in. -/
  description : Option Octets := none
  time : Option TimeFault := none
  name : Option NameFault := none
  /-- The number of the call that gives no symbol of an occurrence. -/
  occurrenceSymbolMissing : Option Nat := none
  /-- The number of the call that gives no symbol of a relation. -/
  relationSymbolMissing : Option Nat := none
  event : EventFault := {}
  /-- The texts that are shown in place of others. -/
  texts : List (TextField × Option Octets) := []
  /-- The names that take the places of the first names of units. -/
  unitNames : List (Option Octets) := []

namespace Creator

/-- The name of the operation. -/
def operation : Creator → String
  | options => "creation_options_create"
  | store => "store_create"
  | storeWithOptions => "store_create_with_options"
  | recordReader => "record_reader_create"
  | unitReader => "unit_reader_create"

def all : List Creator := [options, store, storeWithOptions, recordReader, unitReader]

def named? (name : String) : Option Creator := all.find? fun c => c.operation == name

end Creator

namespace TextField

/-- The name of the operation that shows the text. -/
def operation : TextField → String
  | symbolName => "symbol_get_name"
  | symbolUsr => "symbol_get_usr"
  | symbolCodegenName => "symbol_get_codegen_name"
  | unitModuleName => "unit_reader_get_module_name"
  | unitMainFile => "unit_reader_get_main_file"
  | dependencyName => "unit_dependency_get_name"
  | includeTargetPath => "unit_include_get_target_path"

def all : List TextField := [
  symbolName, symbolUsr, symbolCodegenName, unitModuleName, unitMainFile, dependencyName,
  includeTargetPath]

def named? (name : String) : Option TextField := all.find? fun f => f.operation == name

end TextField

namespace FaultPlan

/-- The faults of an operation that hands out items. -/
def listing (p : FaultPlan) (operation : String) : ListingFault :=
  ((p.listings.find? fun l => l.1 == operation).map Prod.snd).getD {}

/-- The text that is shown in place of another. -/
def text (p : FaultPlan) (field : TextField) (shown : Option Octets) : Option Octets :=
  match p.texts.find? fun t => t.1 = field with
  | some t => t.2
  | none => shown

/-- What is shown of a symbol. -/
def shownSymbol (p : FaultPlan) (v : SymbolView) : SymbolView :=
  { v with
    name := p.text .symbolName v.name
    usr := p.text .symbolUsr v.usr
    codegenName := p.text .symbolCodegenName v.codegenName }

/-- What is shown of a unit. -/
def shownUnit (p : FaultPlan) (v : UnitView) : UnitView :=
  { v with
    moduleName := p.text .unitModuleName v.moduleName
    mainFile := p.text .unitMainFile v.mainFile }

/-- What is shown of a dependency. -/
def shownDependency (p : FaultPlan) (v : DependencyView) : DependencyView :=
  { v with name := p.text .dependencyName v.name }

/-- What is shown of an include. -/
def shownInclude (p : FaultPlan) (v : IncludeView) : IncludeView :=
  { v with targetPath := p.text .includeTargetPath v.targetPath }

end FaultPlan

/-- What is shown of an event. -/
def EventFault.apply (f : EventFault) (v : EventView) : EventView where
  kind := f.kind.getD v.kind
  unitName := f.unitName.or v.unitName

/-- What is shown of a notification. -/
def EventFault.notification (f : EventFault) (n : NotificationView) : NotificationView where
  isInitial := n.isInitial
  count := f.count.getD n.count
  events := n.events.mapIdx fun i e => if i ∈ f.missing then none else e.map f.apply

/-- The call of a handler with what is shown of the notification. -/
def EventFault.call (f : EventFault) : HandlerCall → HandlerCall
  | .deliver h n => .deliver h (f.notification n)
  | .release h => .release h

/-- The octets of a list over and over, to the given length. -/
def cyclic (fill : Octets) (length : Nat) : Octets :=
  (List.range length).filterMap fun i => fill[i % fill.length]?

/-- The answer to asking for a name for the given time. -/
def NameFault.answer (f : NameFault) (time room : Nat) : NameAnswer :=
  let length := (f.lengths[time]?.or f.lengths.getLast?).getD 0
  ⟨.ofNat length, cyclic f.fill (min length room)⟩

end SymbolIndex
