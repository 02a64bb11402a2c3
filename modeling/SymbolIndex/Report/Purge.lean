import SymbolIndex.Report.Record

/-!
# The report on a purge
-/

namespace SymbolIndex

/-- What is left after a purge. -/
structure PurgeInfo where
  path : String
  units : Nat
  /-- The number of records on which a unit depends. -/
  referencedRecords : Nat

namespace PurgeInfo

def lines (i : PurgeInfo) : List String :=
  ["Purged stale data in " ++ i.path,
    toString i.units ++ " unit(s), " ++ toString i.referencedRecords ++ " referenced record(s)"]

def json (i : PurgeInfo) : Json :=
  Json.fields [
    ("path", Json.text i.path),
    ("units", Json.natural i.units),
    ("referenced_records", Json.natural i.referencedRecords)]

end PurgeInfo

namespace Store

variable {σ : Type}

/-- Purges a store, and tells what is left. -/
def purgeInfo (store : Store σ) : Access σ PurgeInfo := do
  store.purge
  let units ← store.unitNames false
  let records ← store.referencedRecords
  return { path := store.path, units := units.length, referencedRecords := records.length }

/-- Purges a store, and reports what is left. -/
def purgeReport (store : Store σ) : Access σ Report := do
  let info ← store.purgeInfo
  return { lines := info.lines, json := info.json }

end Store

end SymbolIndex
