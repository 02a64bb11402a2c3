import SymbolIndex.Report.Basic
import SymbolIndex.Store.Unit

/-!
# The report on the units of a store
-/

namespace SymbolIndex

namespace Store

variable {σ : Type}

/-- The names of units. Without system units they are put into order after they have been
chosen. -/
def reportedUnits (store : Store σ) (sorted includeSystem : Bool) : Access σ (List String) := do
  if includeSystem then store.unitNames sorted
  else
    let names ← store.unitNamesFiltered false
    return if sorted then names.mergeSort fun a b => a ≤ b else names

/-- The report on the units of a store. -/
def unitsReport (store : Store σ) (sorted includeSystem : Bool) : Access σ Report := do
  let names ← store.reportedUnits sorted includeSystem
  return { lines := names, json := .array (names.map Json.text) }

end Store

end SymbolIndex
