import SymbolIndex.Library.Listing
import SymbolIndex.Symbol.Kind
import SymbolIndex.Symbol.Roles
import SymbolIndex.Symbol.Properties
import SymbolIndex.Unit.Kind

/-!
# Copies of what a library shows

A copy holds texts in place of octets, and kinds in place of numbers. A symbol of an unknown kind
or sub-kind is given the kind that says so, and an unknown language is left out. Copying an
occurrence asks the library for its symbol and for its relations, and either may fail.
-/

namespace SymbolIndex

structure SymbolInfo where
  name : String
  usr : String
  codegenName : String
  kind : SymbolKind
  subKind : SymbolSubKind
  language : Option SymbolLanguage
  properties : Properties
  roles : Roles
  relatedRoles : Roles
deriving DecidableEq

structure RelationInfo where
  roles : Roles
  symbol : SymbolInfo
deriving DecidableEq

structure OccurrenceInfo where
  symbol : SymbolInfo
  roles : Roles
  line : UInt32
  column : UInt32
  relations : List RelationInfo
deriving DecidableEq

structure DependencyInfo where
  kind : Option DependencyKind
  rawKind : UInt32
  isSystem : Bool
  filePath : String
  moduleName : String
  name : String
deriving DecidableEq

structure IncludeInfo where
  sourcePath : String
  targetPath : String
  sourceLine : UInt32
deriving DecidableEq

structure UnitInfo where
  name : String
  providerIdentifier : String
  providerVersion : String
  modified : Timestamp
  isSystem : Bool
  isModule : Bool
  isDebug : Bool
  mainFile : Option String
  moduleName : String
  workingDir : String
  outputFile : String
  sysrootPath : String
  target : String
  dependencies : List DependencyInfo
  includes : List IncludeInfo
deriving DecidableEq

namespace SymbolView

def kindOrUnknown (v : SymbolView) : SymbolKind := (Vocabulary.ofCode? v.kind).getD .unknown

def subKindOrPlain (v : SymbolView) : SymbolSubKind := (Vocabulary.ofCode? v.subKind).getD .plain

/-- A copy of a symbol. -/
def info (v : SymbolView) : SymbolInfo where
  name := Text.read v.name
  usr := Text.read v.usr
  codegenName := Text.read v.codegenName
  kind := v.kindOrUnknown
  subKind := v.subKindOrPlain
  language := Vocabulary.ofCode? v.language
  properties := ⟨v.properties⟩
  roles := ⟨v.roles⟩
  relatedRoles := ⟨v.relatedRoles⟩

end SymbolView

/-- A copy of a dependency. -/
def DependencyView.info (v : DependencyView) : DependencyInfo where
  kind := Vocabulary.ofCode? v.kind
  rawKind := v.kind
  isSystem := v.isSystem
  filePath := Text.read v.filePath
  moduleName := Text.read v.moduleName
  name := Text.read v.name

/-- A copy of an include. -/
def IncludeView.info (v : IncludeView) : IncludeInfo where
  sourcePath := Text.read v.sourcePath
  targetPath := Text.read v.targetPath
  sourceLine := v.sourceLine

namespace Library

variable {σ : Type}

/-- The symbol that an operation has given, which must give one. -/
def symbolOr (operation : String) : Option SymbolView → Access σ SymbolView
  | some v => .pure v
  | none => .fail (.breach operation .noSymbol)

/-- The symbol that occurs. -/
def occurrenceSymbol (l : Library σ) (v : OccurrenceView) : Access σ SymbolView :=
  .bind (.step (l.backend.occurrenceSymbol v)) (symbolOr "occurrence_get_symbol")

/-- The symbol to which an occurrence is related. -/
def relationSymbol (l : Library σ) (v : RelationView) : Access σ SymbolView :=
  .bind (.step (l.backend.relationSymbol v)) (symbolOr "symbol_relation_get_symbol")

/-- The relations of an occurrence. -/
def relations (l : Library σ) (v : OccurrenceView) : Listing σ RelationView where
  operation := "occurrence_relations_apply"
  convention := l.convention
  start c := l.backend.relations c v

/-- A copy of a relation. -/
def relationInfo (l : Library σ) (v : RelationView) : Access σ RelationInfo := do
  let symbol ← l.relationSymbol v
  return { roles := ⟨v.roles⟩, symbol := symbol.info }

/-- Copies of the relations of an occurrence. -/
def relationInfos (l : Library σ) (v : OccurrenceView) : Access σ (List RelationInfo) :=
  (l.relations v).gather l.relationInfo

/-- A copy of an occurrence with its relations. -/
def occurrenceInfo (l : Library σ) (v : OccurrenceView) : Access σ OccurrenceInfo := do
  let symbol ← l.occurrenceSymbol v
  let relations ← l.relationInfos v
  return {
    symbol := symbol.info
    roles := ⟨v.roles⟩
    line := v.line
    column := v.column
    relations }

end Library

end SymbolIndex
