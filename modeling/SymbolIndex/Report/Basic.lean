import SymbolIndex.Json.Printer

/-!
# Reports

A report can be written as text for a reader or as a value of the data format.
-/

namespace SymbolIndex

inductive ReportFormat where
  | text
  | json
deriving DecidableEq

structure Report where
  lines : List String
  json : Json

/-- Lines with an end to each. -/
def unlines (lines : List String) : String := String.join (lines.map (· ++ "\n"))

/-- The written report. -/
def Report.render (r : Report) : ReportFormat → String
  | .text => unlines r.lines
  | .json => r.json.print ++ "\n"

end SymbolIndex
