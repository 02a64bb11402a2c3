import SymbolIndex.Report.Unit
import SymbolIndex.Store.Record

/-!
# The report on records

A record is reported with its symbols and its occurrences. The records of a store that can be
found are those on which a unit depends.
-/

namespace SymbolIndex

/-- A record that has been read. -/
structure RecordInfo where
  name : String
  symbols : List SymbolInfo
  occurrences : List OccurrenceInfo

namespace SymbolInfo

def line (s : SymbolInfo) : String :=
  "  " ++ " | ".intercalate [Vocabulary.name s.kind, (s.language.map Vocabulary.name).getD "?",
    s.name, s.usr, s.roles.text]

def json (s : SymbolInfo) : Json :=
  Json.fields (
    [("kind", Json.text (Vocabulary.name s.kind))]
    ++ optionalMember "language" (s.language.map Vocabulary.name)
    ++ [("name", Json.text s.name), ("usr", Json.text s.usr), ("roles", Json.text s.roles.text)])

end SymbolInfo

namespace OccurrenceInfo

def location (o : OccurrenceInfo) : String :=
  toString o.line.toNat ++ ":" ++ toString o.column.toNat

/-- The relations of an occurrence, as the roles and the name of the other symbol. -/
def relationTexts (o : OccurrenceInfo) : List String :=
  o.relations.map fun r => r.roles.text ++ " " ++ r.symbol.name

def lines (o : OccurrenceInfo) : List String :=
  ("  " ++ " | ".intercalate [o.location, o.symbol.name, o.roles.text])
    :: o.relationTexts.map fun r => "    " ++ r

def json (o : OccurrenceInfo) : Json :=
  Json.fields (
    [("location", Json.text o.location),
      ("roles", Json.text o.roles.text),
      ("symbol", Json.text o.symbol.name)]
    ++ if o.relations.isEmpty then []
      else [("relations", .array (o.relationTexts.map Json.text))])

end OccurrenceInfo

namespace RecordInfo

def lines (r : RecordInfo) : List String :=
  ["=== " ++ r.name ++ " ===", "symbols: " ++ toString r.symbols.length]
  ++ r.symbols.map SymbolInfo.line
  ++ ["occurrences: " ++ toString r.occurrences.length]
  ++ r.occurrences.flatMap OccurrenceInfo.lines
  ++ [""]

def json (r : RecordInfo) : Json :=
  Json.fields [
    ("name", Json.text r.name),
    ("symbols", .array (r.symbols.map SymbolInfo.json)),
    ("occurrences", .array (r.occurrences.map OccurrenceInfo.json))]

end RecordInfo

/-- The texts of a list, each one once, in order. -/
def sortedDistinct (texts : List String) : List String :=
  (texts.mergeSort fun a b => a ≤ b).eraseReps

namespace Store

variable {σ : Type}

/-- The names of the records on which a unit depends. -/
def recordsOfUnit (store : Store σ) (unit : String) : Access σ (List String) := do
  let dependencies ← store.withUnit unit UnitReader.dependencyInfos
  return (dependencies.filter fun d => d.kind = some .record).map DependencyInfo.name

/-- The names of the records on which the units of a store depend, in order. -/
def referencedRecords (store : Store σ) : Access σ (List String) := do
  let units ← store.unitNames true
  let names ← units.mapM store.recordsOfUnit
  return sortedDistinct names.flatten

/-- Reads a record. -/
def recordInfo (store : Store σ) (name : String) : Access σ RecordInfo :=
  store.withRecord name fun reader => do
    let symbols ← reader.symbolInfos
    let occurrences ← reader.occurrenceInfos
    return { name, symbols, occurrences }

/-- A record, or every record on which a unit depends. -/
def reportedRecords (store : Store σ) (name : Option String) : Access σ (List RecordInfo) := do
  let names ← match name with
    | some name => pure [name]
    | none => store.referencedRecords
  names.mapM store.recordInfo

/-- The report on a record, or on every record on which a unit depends. -/
def recordReport (store : Store σ) (name : Option String) : Access σ Report := do
  let records ← store.reportedRecords name
  return { lines := records.flatMap RecordInfo.lines, json := .array (records.map RecordInfo.json) }

end Store

end SymbolIndex
