import SymbolIndex.Library.Basic
import SymbolIndex.Report.Basic

/-!
# The report on a library
-/

namespace SymbolIndex

/-- The report on a library: its versions, and how it is called. -/
def Library.report {σ : Type} (l : Library σ) : Report where
  lines := [
    "Library:          " ++ l.path,
    "API version:      " ++ l.version.text ++ " (requires " ++ Version.required.text ++ ")",
    "Format version:   " ++ toString l.formatVersion.toNat,
    "Closure support:  " ++ toString l.hasClosures,
    "Convention:       " ++ l.convention.text]
  json := Json.fields [
    ("path", Json.text l.path),
    ("version", Json.text l.version.text),
    ("required_version", Json.text Version.required.text),
    ("format_version", Json.natural l.formatVersion.toNat),
    ("closure_support", .bool l.hasClosures),
    ("convention", Json.text l.convention.text)]

end SymbolIndex
