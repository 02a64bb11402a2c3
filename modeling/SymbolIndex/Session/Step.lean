import SymbolIndex.Library.InProcess
import SymbolIndex.Report.Command

/-!
# Steps of a session

A step does one thing with objects that are known by their names.
-/

namespace SymbolIndex

/-- How an applier behaves. Calls are counted from one, and zero stands for no call. -/
structure Script where
  /-- The call at which the applier asks to stop. -/
  stopAt : Nat := 0
  /-- The call at which the applier panics. A panic comes before a stop. -/
  panicAt : Nat := 0

/-- How a filter and a receiver behave. -/
structure SearchScript where
  /-- Accept the symbols of the kind of this name. -/
  kind : Option String := none
  /-- The verdicts, one after the other. -/
  verdicts : List Verdict := []
  /-- The verdict when there are no more. -/
  default : Verdict := .rejected
  /-- The call at which the filter panics. -/
  filterPanicAt : Nat := 0
  /-- The call at which the receiver panics. -/
  receiverPanicAt : Nat := 0

/-- A symbol of a record reader, by its place. -/
structure SymbolChoice where
  record : String
  index : Nat

/-- The occurrences of a record that are asked for. -/
inductive OccurrenceChoice where
  | all
  | lines (start count : UInt32)
  | ofSymbols (symbols related : List SymbolChoice)

/-- Something that can be looked into. -/
inductive Inspected where
  | library (name : String)
  | options (name : String)
  | store (name : String)
  | record (name : String)
  | unit (name : String)

inductive StoreStep where
  | unitNames (sorted : Bool)
  | unitNamesFiltered (includeSystem : Bool)
  | units (sorted : Bool) (script : Script)
  | unitName (outputPath : String)
  | unitTime (unit : String)
  | discardUnit (unit : String)
  | discardRecord (record : String)
  | purge
  | openRecord (reader : String) (record : String)
  | openUnit (reader : String) (unit : String)
  | setHandler (handler : String)
  | subscribe (receiver : String)
  | start (wait : Bool)
  | stop
  | command (command : Command) (format : ReportFormat)

inductive RecordStep where
  | symbolInfos
  | cachedSymbols
  | occurrenceInfos
  | symbols (full : Bool) (script : Script)
  | occurrences (choice : OccurrenceChoice) (full : Bool) (script : Script)
  | relations (script relationScript : Script)
  | search (script : SearchScript)

inductive UnitStep where
  | info
  | mainFile
  | dependencyInfos
  | includeInfos
  | dependencies (script : Script)
  | includes (script : Script)

inductive Step where
  | load (library : String) (source : InProcessLibrary) (faulty : Bool) (config : LibraryConfig)
  | sameLibrary (library other : String)
  | cloneLibrary (library copy : String)
  | newOptions (options library : String)
  | addMapping (options source target : String)
  | dropOptions (options : String)
  | openStore (library store directory : String) (options : Option String)
  | closeStore (store : String)
  | inspect (what : Inspected)
  | tally (directory : String)
  | faultErrors
  | disk (directory : String)
  | removeDirectory (directory : String)
  | withStore (store : String) (step : StoreStep)
  | closeRecord (record : String)
  | withRecord (record : String) (step : RecordStep)
  | closeUnit (unit : String)
  | withUnit (unit : String) (step : UnitStep)
  | takeJournal (handler : String)
  | receiveAll (receiver : String)
  | receive (receiver : String)
  | dropReceiver (receiver : String)

end SymbolIndex
