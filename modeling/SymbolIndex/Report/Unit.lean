import SymbolIndex.Report.Basic
import SymbolIndex.Store.Unit

/-!
# The report on single units

A unit is reported with what it depends on and what it includes.
-/

namespace SymbolIndex

/-- A text with blanks behind it, to the given length at least. -/
def padded (width : Nat) (s : String) : String :=
  s ++ String.ofList (List.replicate (width - s.length) ' ')

/-- A member that is left out if its text is missing. -/
def optionalMember (key : String) : Option String → List (String × Json)
  | some s => [(key, Json.text s)]
  | none => []

namespace DependencyInfo

/-- The name of the kind. An unknown kind is a number. -/
def kindText (d : DependencyInfo) : String :=
  match d.kind with
  | some k => Vocabulary.name k
  | none => toString d.rawKind.toNat

def line (d : DependencyInfo) : String :=
  "  " ++ padded 7 d.kindText ++ " " ++ (if d.name.isEmpty then "-" else d.name) ++ " | "
    ++ d.filePath ++ (if d.isSystem then " (system)" else "")

def json (d : DependencyInfo) : Json :=
  Json.fields ([
    ("kind", Json.text d.kindText),
    ("is_system", .bool d.isSystem),
    ("name", Json.text d.name),
    ("file_path", Json.text d.filePath)]
    ++ optionalMember "module_name" (if d.moduleName.isEmpty then none else some d.moduleName))

end DependencyInfo

namespace IncludeInfo

/-- The place of the directive. -/
def source (i : IncludeInfo) : String := i.sourcePath ++ ":" ++ toString i.sourceLine.toNat

def line (i : IncludeInfo) : String := "  " ++ i.source ++ " -> " ++ i.targetPath

def json (i : IncludeInfo) : Json :=
  Json.fields [("source", Json.text i.source), ("target", Json.text i.targetPath)]

end IncludeInfo

namespace UnitInfo

/-- The tool that has written the unit, with its version. -/
def provider (u : UnitInfo) : String := u.providerIdentifier ++ " " ++ u.providerVersion

def lines (u : UnitInfo) : List String :=
  ["=== " ++ u.name ++ " ===",
    "provider:     " ++ u.provider,
    "modified:     " ++ u.modified.text,
    "flags:        system=" ++ toString u.isSystem ++ " module=" ++ toString u.isModule
      ++ " debug=" ++ toString u.isDebug]
  ++ (u.mainFile.toList.map fun f => "main file:    " ++ f)
  ++ (if u.moduleName.isEmpty then [] else ["module:       " ++ u.moduleName])
  ++ ["working dir:  " ++ u.workingDir,
    "output file:  " ++ u.outputFile,
    "sysroot:      " ++ u.sysrootPath,
    "target:       " ++ u.target,
    "dependencies: " ++ toString u.dependencies.length]
  ++ u.dependencies.map DependencyInfo.line
  ++ ["includes:     " ++ toString u.includes.length]
  ++ u.includes.map IncludeInfo.line
  ++ [""]

def json (u : UnitInfo) : Json :=
  Json.fields (
    [("name", Json.text u.name),
      ("provider", Json.text u.provider),
      ("modification_time", Json.text u.modified.text),
      ("is_system", .bool u.isSystem),
      ("is_module", .bool u.isModule),
      ("is_debug", .bool u.isDebug)]
    ++ optionalMember "main_file" u.mainFile
    ++ [("module_name", Json.text u.moduleName),
      ("working_dir", Json.text u.workingDir),
      ("output_file", Json.text u.outputFile),
      ("sysroot_path", Json.text u.sysrootPath),
      ("target", Json.text u.target),
      ("dependencies", .array (u.dependencies.map DependencyInfo.json)),
      ("includes", .array (u.includes.map IncludeInfo.json))])

end UnitInfo

namespace Store

variable {σ : Type}

/-- A unit, or every unit in the order of names. -/
def reportedUnitInfos (store : Store σ) (name : Option String) : Access σ (List UnitInfo) := do
  let names ← match name with
    | some name => pure [name]
    | none => store.unitNames true
  names.mapM fun name => store.withUnit name UnitReader.info

/-- The report on a unit, or on every unit. -/
def unitReport (store : Store σ) (name : Option String) : Access σ Report := do
  let units ← store.reportedUnitInfos name
  return { lines := units.flatMap UnitInfo.lines, json := .array (units.map UnitInfo.json) }

end Store

end SymbolIndex
