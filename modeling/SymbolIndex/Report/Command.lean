import SymbolIndex.Report.Library
import SymbolIndex.Report.Purge
import SymbolIndex.Report.UnitName
import SymbolIndex.Report.Units

/-!
# Commands

A command asks for one report.
-/

namespace SymbolIndex

inductive Command where
  | info
  | units (sorted includeSystem : Bool)
  | printUnit (name : Option String)
  | printRecord (name : Option String)
  | unitName (outputPath : String)
  | purge

/-- The report for which a command asks. -/
def Command.report {σ : Type} (store : Store σ) : Command → Access σ Report
  | .info => .pure store.library.report
  | .units sorted includeSystem => store.unitsReport sorted includeSystem
  | .printUnit name => store.unitReport name
  | .printRecord name => store.recordReport name
  | .unitName outputPath => store.unitNameReport outputPath
  | .purge => store.purgeReport

end SymbolIndex
