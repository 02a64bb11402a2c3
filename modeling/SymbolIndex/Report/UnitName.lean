import SymbolIndex.Report.Basic
import SymbolIndex.Store.Basic

/-!
# The report on the unit of an output file
-/

namespace SymbolIndex

/-- The name of the unit that is written for an output file. -/
structure UnitNameInfo where
  outputPath : String
  unitName : String
  /-- The store holds the unit. -/
  present : Bool

namespace UnitNameInfo

def line (i : UnitNameInfo) : String :=
  i.unitName ++ if i.present then "" else " (not in store)"

def json (i : UnitNameInfo) : Json :=
  Json.fields [
    ("output_path", Json.text i.outputPath),
    ("unit_name", Json.text i.unitName),
    ("present", .bool i.present)]

end UnitNameInfo

namespace Store

variable {σ : Type}

/-- The name of the unit of an output file, and whether the store holds the unit. -/
def unitNameInfo (store : Store σ) (outputPath : String) : Access σ UnitNameInfo := do
  let unitName ← store.unitName outputPath
  let names ← store.unitNames false
  return { outputPath, unitName, present := names.contains unitName }

/-- The report on the unit of an output file. -/
def unitNameReport (store : Store σ) (outputPath : String) : Access σ Report := do
  let info ← store.unitNameInfo outputPath
  return { lines := [info.line], json := info.json }

end Store

end SymbolIndex
