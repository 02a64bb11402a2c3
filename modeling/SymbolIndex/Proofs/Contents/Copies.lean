import SymbolIndex.Archive.Readers
import SymbolIndex.Library.Infos
import SymbolIndex.Proofs.Text.Utf8

/-!
# Copies of what a store holds

What a client can copy of a unit or of a record can be said without an archive. The copies do not
depend on the reader through which they are made, and have the texts that the store holds. The
paths of a unit are those to which they are mapped.
-/

namespace SymbolIndex

/-! ### Records -/

/-- The copy of a symbol. -/
def SymbolEntry.info (s : SymbolEntry) : SymbolInfo where
  name := s.name
  usr := s.usr
  codegenName := s.codegenName
  kind := (Vocabulary.ofCode? s.kind).getD .unknown
  subKind := (Vocabulary.ofCode? s.subKind).getD .plain
  language := Vocabulary.ofCode? s.language
  properties := ⟨s.properties⟩
  roles := ⟨s.roles⟩
  relatedRoles := ⟨s.relatedRoles⟩

@[simp]
theorem SymbolEntry.info_view (s : SymbolEntry) (ref : SymbolRef) :
  (s.view ref).info = s.info
  := by
  simp [view, SymbolView.info, SymbolView.kindOrUnknown, SymbolView.subKindOrPlain, info]

/-- The copy of a relation with the symbol that it shows. -/
def RelationView.info (v : RelationView) : RelationInfo where
  roles := ⟨v.roles⟩
  symbol := v.symbol.info

/-- The copy of an occurrence with the symbols that it shows. -/
def OccurrenceView.info (v : OccurrenceView) : OccurrenceInfo where
  symbol := v.symbol.info
  roles := ⟨v.roles⟩
  line := v.line
  column := v.column
  relations := v.relations.map RelationView.info

namespace RecordEntry

variable (r : RecordEntry)

/-- The copies of the symbols. -/
def symbolInfos : List SymbolInfo := r.symbols.map SymbolEntry.info

/-- The copy of the symbol at a place of the record. -/
def symbolInfo? (i : UInt64) : Option SymbolInfo := r.symbols[i.toNat]?.map SymbolEntry.info

def relationInfo? (e : RelationEntry) : Option RelationInfo :=
  (r.symbolInfo? e.symbol).map fun symbol => { roles := ⟨e.roles⟩, symbol }

def occurrenceInfo? (o : OccurrenceEntry) : Option OccurrenceInfo :=
  (r.symbolInfo? o.symbol).map fun symbol => {
    symbol
    roles := ⟨o.roles⟩
    line := o.line
    column := o.column
    relations := o.relations.filterMap r.relationInfo? }

/-- The copies of the occurrences, in the order of the source. -/
def occurrenceInfos : List OccurrenceInfo := r.inSourceOrder.filterMap r.occurrenceInfo?

variable (reader : RecordRef)

theorem info_symbolView? (i : UInt64) :
  (r.symbolView? reader i).map SymbolView.info = r.symbolInfo? i
  := by
  simp [symbolView?, symbolInfo?, Function.comp_def]

theorem info_relationView? (e : RelationEntry) :
  (r.relationView? reader e).map RelationView.info = r.relationInfo? e
  := by
  rw [relationInfo?, ← r.info_symbolView? reader, relationView?, Option.map_map, Option.map_map]
  rfl

theorem info_occurrenceView? (o : OccurrenceEntry) :
  (r.occurrenceView? reader o).map OccurrenceView.info = r.occurrenceInfo? o
  := by
  have hrelations : (o.relations.filterMap (r.relationView? reader)).map RelationView.info
      = o.relations.filterMap r.relationInfo? := by
    rw [List.map_filterMap]
    simp only [info_relationView?]
  rw [occurrenceInfo?, ← r.info_symbolView? reader, ← hrelations, occurrenceView?,
    Option.map_map, Option.map_map]
  rfl

/-- The symbols that a reader shows are copied as the symbols of the record. -/
theorem info_symbolViews :
  (r.symbolViews reader).map SymbolView.info = r.symbolInfos
  := by
  apply List.ext_getElem
  · simp [symbolViews, symbolInfos]
  · intro i _ _
    simp [symbolViews, symbolInfos]

/-- The occurrences that a reader shows are copied as the occurrences of the record. -/
theorem info_occurrenceViews :
  (r.occurrenceViews reader).map OccurrenceView.info = r.occurrenceInfos
  := by
  rw [occurrenceViews, List.map_filterMap, occurrenceInfos]
  simp only [info_occurrenceView?]

end RecordEntry

/-! ### Units -/

variable (path : String → String)

def DependencyEntry.info (d : DependencyEntry) : DependencyInfo where
  kind := Vocabulary.ofCode? d.kind
  rawKind := d.kind
  isSystem := d.isSystem
  filePath := path d.filePath
  moduleName := d.moduleName
  name := d.name

def IncludeEntry.info (i : IncludeEntry) : IncludeInfo where
  sourcePath := path i.sourcePath
  targetPath := path i.targetPath
  sourceLine := i.sourceLine

/-- The copy of a unit whose paths are mapped. -/
def UnitEntry.info (u : UnitEntry) : UnitInfo where
  name := u.name
  providerIdentifier := u.providerIdentifier
  providerVersion := u.providerVersion
  modified := u.modified
  isSystem := u.isSystem
  isModule := u.isModule
  isDebug := u.isDebug
  mainFile := u.mainFile.map path
  moduleName := u.moduleName
  workingDir := path u.workingDir
  outputFile := path u.outputFile
  sysrootPath := path u.sysrootPath
  target := u.target
  dependencies := u.dependencies.map fun d => d.info path
  includes := u.includes.map fun i => i.info path

@[simp]
theorem DependencyEntry.info_view (d : DependencyEntry) :
  (d.view path).info = d.info path
  := by
  simp [view, DependencyView.info, info]

@[simp]
theorem IncludeEntry.info_view (i : IncludeEntry) :
  (i.view path).info = i.info path
  := by
  simp [view, IncludeView.info, info]

end SymbolIndex
