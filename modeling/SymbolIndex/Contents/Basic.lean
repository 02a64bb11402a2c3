import SymbolIndex.Symbol.Kind
import SymbolIndex.Symbol.Roles
import SymbolIndex.Symbol.Properties
import SymbolIndex.Unit.Kind
import SymbolIndex.Timestamp

/-!
# The contents of a store

A store holds units and records. A unit describes one compilation and depends on other units, on
records and on files. A record lists the symbols of one source file and where they occur, and
refers to its symbols by their position. Kinds, languages and roles are kept as the numbers that
were written, known or not.
-/

namespace SymbolIndex

/-- How a store breaks the rules when it is asked to report events. -/
inductive ListenFault where
  /-- It keeps the rules. -/
  | none
  /-- It refuses and gives no error object. -/
  | failWithoutError
  /-- It starts to report and gives an error object all the same. -/
  | succeedWithError
deriving DecidableEq

structure DependencyEntry where
  kind : UInt32 := 0
  isSystem : Bool := false
  filePath : String := ""
  moduleName : String := ""
  name : String := ""
deriving DecidableEq

structure IncludeEntry where
  sourcePath : String := ""
  targetPath : String := ""
  sourceLine : UInt32 := 0
deriving DecidableEq

structure UnitEntry where
  name : String := ""
  providerIdentifier : String := ""
  providerVersion : String := ""
  modified : Timestamp := {}
  isSystem : Bool := false
  isModule : Bool := false
  isDebug : Bool := false
  mainFile : Option String := none
  moduleName : String := ""
  workingDir : String := ""
  outputFile : String := ""
  sysrootPath : String := ""
  target : String := ""
  dependencies : List DependencyEntry := []
  includes : List IncludeEntry := []
deriving DecidableEq

structure SymbolEntry where
  name : String := ""
  usr : String := ""
  codegenName : String := ""
  kind : UInt32 := 0
  subKind : UInt32 := 0
  language : UInt32 := 0
  properties : UInt64 := 0
  roles : UInt64 := 0
  relatedRoles : UInt64 := 0
deriving DecidableEq

structure RelationEntry where
  symbol : UInt64 := 0
  roles : UInt64 := 0
deriving DecidableEq

structure OccurrenceEntry where
  symbol : UInt64 := 0
  roles : UInt64 := 0
  line : UInt32 := 0
  column : UInt32 := 0
  relations : List RelationEntry := []
deriving DecidableEq

structure RecordEntry where
  name : String := ""
  symbols : List SymbolEntry := []
  occurrences : List OccurrenceEntry := []
deriving DecidableEq

structure StoreContents where
  units : List UnitEntry := []
  records : List RecordEntry := []
  listenFault : ListenFault := .none
deriving DecidableEq

namespace RecordEntry

/-- The first symbol that the occurrence refers to and that the record does not hold. The
relations of an occurrence are looked at before its own symbol. -/
def missingSymbolOf? (r : RecordEntry) (o : OccurrenceEntry) : Option UInt64 :=
  (o.relations.map RelationEntry.symbol ++ [o.symbol]).find? fun i => r.symbols.length ≤ i.toNat

/-- The first symbol that an occurrence refers to and that the record does not hold. -/
def missingSymbol? (r : RecordEntry) : Option UInt64 :=
  r.occurrences.findSome? r.missingSymbolOf?

/-- The occurrences by line and column. Those at one place stay in the order of the record. -/
def inSourceOrder (r : RecordEntry) : List OccurrenceEntry :=
  r.occurrences.mergeSort fun a b =>
    a.line < b.line || (a.line == b.line && a.column ≤ b.column)

end RecordEntry

namespace StoreContents

/-- The first unit of the given name. -/
def unit? (c : StoreContents) (name : String) : Option UnitEntry :=
  c.units.find? fun u => u.name == name

/-- The first record of the given name. -/
def record? (c : StoreContents) (name : String) : Option RecordEntry :=
  c.records.find? fun r => r.name == name

/-- The names of the units in the order of the store. -/
def unitNames (c : StoreContents) : List String := c.units.map UnitEntry.name

/-- The names of the units in the order of names. -/
def sortedUnitNames (c : StoreContents) : List String :=
  c.unitNames.mergeSort fun a b => a ≤ b

/-- Without any unit of the given name. -/
def discardUnit (c : StoreContents) (name : String) : StoreContents :=
  { c with units := c.units.filter fun u => u.name != name }

/-- Without any record of the given name. -/
def discardRecord (c : StoreContents) (name : String) : StoreContents :=
  { c with records := c.records.filter fun r => r.name != name }

/-- The names of the records that the units depend on. -/
def referencedRecords (c : StoreContents) : List String :=
  c.units.flatMap fun u =>
    (u.dependencies.filter fun d => d.kind == Vocabulary.code DependencyKind.record).map
      DependencyEntry.name

/-- Without the records that no unit depends on. -/
def purge (c : StoreContents) : StoreContents :=
  { c with records := c.records.filter fun r => c.referencedRecords.contains r.name }

end StoreContents

end SymbolIndex
