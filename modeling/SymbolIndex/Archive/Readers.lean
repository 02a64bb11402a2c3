import SymbolIndex.Archive.Basic

/-!
# Readers of the archive

A record reader refers to the symbols of its record by their places. A record in which an
occurrence refers to a symbol that is not there cannot be read. A unit reader shows the paths of
its unit as its store maps them.
-/

namespace SymbolIndex

open Text (Octets)

/-- How the archive shows a symbol. -/
def SymbolEntry.view (s : SymbolEntry) (ref : SymbolRef) : SymbolView where
  ref := ref
  name := some (Text.octets s.name)
  usr := some (Text.octets s.usr)
  codegenName := some (Text.octets s.codegenName)
  kind := s.kind
  subKind := s.subKind
  language := s.language
  properties := s.properties
  roles := s.roles
  relatedRoles := s.relatedRoles

namespace RecordEntry

/-- The symbol at a place of the record, as a reader shows it. -/
def symbolView? (r : RecordEntry) (reader : RecordRef) (i : UInt64) : Option SymbolView :=
  r.symbols[i.toNat]?.map fun s => s.view ⟨reader, i.toNat⟩

def relationView? (r : RecordEntry) (reader : RecordRef) (e : RelationEntry) :
    Option RelationView :=
  (r.symbolView? reader e.symbol).map fun symbol => { symbol, roles := e.roles }

def occurrenceView? (r : RecordEntry) (reader : RecordRef) (o : OccurrenceEntry) :
    Option OccurrenceView :=
  (r.symbolView? reader o.symbol).map fun symbol => {
    symbol
    roles := o.roles
    line := o.line
    column := o.column
    relations := o.relations.filterMap (r.relationView? reader) }

/-- The symbols of the record as a reader shows them. -/
def symbolViews (r : RecordEntry) (reader : RecordRef) : List SymbolView :=
  r.symbols.mapIdx fun i s => s.view ⟨reader, i⟩

/-- The occurrences of the record as a reader shows them, in the order of the source. -/
def occurrenceViews (r : RecordEntry) (reader : RecordRef) : List OccurrenceView :=
  r.inSourceOrder.filterMap (r.occurrenceView? reader)

end RecordEntry

namespace Selection

/-- Whether a line is one of a number of lines from a line on. The lines end before the largest
number at the latest. -/
def onLines (start count line : UInt32) : Bool :=
  start ≤ line && line.toNat < min (start.toNat + count.toNat) (UInt32.size - 1)

/-- Whether an occurrence is selected. -/
def selects : Selection → OccurrenceView → Bool
  | .all, _ => true
  | .lines start count, o => onLines start count o.line
  | .ofSymbols symbols related, o =>
    (symbols.isEmpty || symbols.contains o.symbol.ref)
      && (related.isEmpty || o.relations.any fun r => related.contains r.symbol.ref)

end Selection

/-- How the archive shows a unit, whose paths are mapped. -/
def UnitEntry.view (u : UnitEntry) (path : String → String) : UnitView where
  providerIdentifier := some (Text.octets u.providerIdentifier)
  providerVersion := some (Text.octets u.providerVersion)
  modified := u.modified
  isSystem := u.isSystem
  isModule := u.isModule
  isDebug := u.isDebug
  hasMainFile := u.mainFile.isSome
  mainFile := u.mainFile.map fun f => Text.octets (path f)
  moduleName := some (Text.octets u.moduleName)
  workingDir := some (Text.octets (path u.workingDir))
  outputFile := some (Text.octets (path u.outputFile))
  sysrootPath := some (Text.octets (path u.sysrootPath))
  target := some (Text.octets u.target)

/-- How the archive shows a dependency. -/
def DependencyEntry.view (d : DependencyEntry) (path : String → String) : DependencyView where
  kind := d.kind
  isSystem := d.isSystem
  filePath := some (Text.octets (path d.filePath))
  moduleName := some (Text.octets d.moduleName)
  name := some (Text.octets d.name)

/-- How the archive shows an include. -/
def IncludeEntry.view (i : IncludeEntry) (path : String → String) : IncludeView where
  sourcePath := some (Text.octets (path i.sourcePath))
  targetPath := some (Text.octets (path i.targetPath))
  sourceLine := i.sourceLine

/-- What a reader that is not open shows. -/
def UnitView.blank : UnitView := { ({} : UnitEntry).view id with hasMainFile := false }

namespace Archive

/-! ### Record readers -/

def createRecordReader (store : StoreRef) (octets : Octets) (a : Archive) : Created × Archive :=
  match a.stores.get? store with
  | none => (⟨none, none⟩, a)
  | some s =>
    let name := Text.decode octets
    match s.contents.record? name with
    | none => a.refuse s.directory ("record not found: " ++ name)
    | some r =>
      match r.missingSymbol? with
      | some i =>
        a.refuse s.directory
          ("record " ++ name ++ " refers to missing symbol " ++ toString i.toNat)
      | none =>
        let (ref, records) := a.records.insert {
          directory := s.directory
          symbols := r.symbolViews a.records.next
          occurrences := r.occurrenceViews a.records.next }
        (⟨some ref, none⟩, { a with records }.enter s.directory
          fun t => { t with recordReaders := t.recordReaders.create })

def disposeRecordReader (ref : RecordRef) (a : Archive) : Archive :=
  match a.records.get? ref with
  | none => a
  | some r =>
    { a with records := a.records.erase ref }.enter r.directory
      fun t => { t with recordReaders := t.recordReaders.dispose }

def symbolsOf (a : Archive) (ref : RecordRef) : List SymbolView :=
  ((a.records.get? ref).map ArchiveRecord.symbols).getD []

def occurrencesOf (a : Archive) (ref : RecordRef) (selection : Selection) : List OccurrenceView :=
  ((a.records.get? ref).map ArchiveRecord.occurrences).getD [] |>.filter selection.selects

/-- Counts that the occurrences on some lines are asked for. -/
def countQuery (ref : RecordRef) (selection : Selection) (a : Archive) : Archive :=
  match selection, a.records.get? ref with
  | .lines .., some r =>
    a.enter r.directory fun t => { t with lineRangeQueries := t.lineRangeQueries + 1 }
  | _, _ => a

/-! ### Unit readers -/

def createUnitReader (store : StoreRef) (octets : Octets) (a : Archive) : Created × Archive :=
  match a.stores.get? store with
  | none => (⟨none, none⟩, a)
  | some s =>
    let name := Text.decode octets
    match s.contents.unit? name with
    | none => a.refuse s.directory ("unit not found: " ++ name)
    | some u =>
      let path := remap s.mappings
      let (ref, units) := a.units.insert {
        directory := s.directory
        view := u.view path
        dependencies := u.dependencies.map fun d => d.view path
        includes := u.includes.map fun i => i.view path }
      (⟨some ref, none⟩, { a with units }.enter s.directory
        fun t => { t with unitReaders := t.unitReaders.create })

def disposeUnitReader (ref : UnitRef) (a : Archive) : Archive :=
  match a.units.get? ref with
  | none => a
  | some u =>
    { a with units := a.units.erase ref }.enter u.directory
      fun t => { t with unitReaders := t.unitReaders.dispose }

def unitView (ref : UnitRef) (a : Archive) : UnitView :=
  ((a.units.get? ref).map ArchiveUnit.view).getD .blank

def dependenciesOf (a : Archive) (ref : UnitRef) : List DependencyView :=
  ((a.units.get? ref).map ArchiveUnit.dependencies).getD []

def includesOf (a : Archive) (ref : UnitRef) : List IncludeView :=
  ((a.units.get? ref).map ArchiveUnit.includes).getD []

end Archive

end SymbolIndex
