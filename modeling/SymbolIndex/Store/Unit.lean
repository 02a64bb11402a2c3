import SymbolIndex.Store.Basic
import SymbolIndex.Library.Infos

/-!
# Unit readers

A unit reader tells how a unit was made and what it depends on.
-/

namespace SymbolIndex

structure UnitReader (σ : Type) where
  store : Store σ
  ref : UnitRef
  name : String

namespace UnitReader

variable {σ : Type}

/-- Opens the unit of the given name. -/
def openIn (store : Store σ) (name : String) : Access σ (UnitReader σ) := do
  let octets ← Access.terminated name
  let answer ← Access.step (store.library.backend.createUnitReader store.ref octets)
  let ref ← store.library.created "unit_reader_create" answer
  return { store, ref, name }

def library (r : UnitReader σ) : Library σ := r.store.library

def close (r : UnitReader σ) : σ → σ := r.library.backend.disposeUnitReader r.ref

/-- What the library shows of the unit itself. -/
def view (r : UnitReader σ) : Access σ UnitView := fun s =>
  (.ok (r.library.backend.unit r.ref s), s)

/-- What the unit depends on. -/
def dependencies (r : UnitReader σ) : Listing σ DependencyView where
  operation := "unit_reader_dependencies_apply"
  convention := r.library.convention
  start c := r.library.backend.dependencies c r.ref

/-- What the unit includes. -/
def includes (r : UnitReader σ) : Listing σ IncludeView where
  operation := "unit_reader_includes_apply"
  convention := r.library.convention
  start c := r.library.backend.includes c r.ref

def dependencyInfos (r : UnitReader σ) : Access σ (List DependencyInfo) :=
  r.dependencies.gather fun v => .pure v.info

def includeInfos (r : UnitReader σ) : Access σ (List IncludeInfo) :=
  r.includes.gather fun v => .pure v.info

/-- A copy of the unit with its dependencies and its includes. -/
def info (r : UnitReader σ) : Access σ UnitInfo := do
  let v ← r.view
  let dependencies ← r.dependencyInfos
  let includes ← r.includeInfos
  return {
    name := r.name
    providerIdentifier := Text.read v.providerIdentifier
    providerVersion := Text.read v.providerVersion
    modified := v.modified
    isSystem := v.isSystem
    isModule := v.isModule
    isDebug := v.isDebug
    mainFile := if v.hasMainFile then some (Text.read v.mainFile) else none
    moduleName := Text.read v.moduleName
    workingDir := Text.read v.workingDir
    outputFile := Text.read v.outputFile
    sysrootPath := Text.read v.sysrootPath
    target := Text.read v.target
    dependencies
    includes }

/-- The reader as it is shown when it is looked into. -/
def inspect (r : UnitReader σ) : String :=
  "UnitReader \x7b name: " ++ Text.quoted r.name ++ ", .. \x7d"

end UnitReader

namespace Store

variable {σ α : Type}

/-- Opens a unit for one access, and closes it however the access ends. -/
def withUnit (store : Store σ) (name : String) (use : UnitReader σ → Access σ α) :
    Access σ α := do
  let reader ← UnitReader.openIn store name
  fun s => match use reader s with
    | (result, s) => (result, reader.close s)

/-- Whether a unit can be read and is no system unit. -/
def isUserUnit (store : Store σ) (name : String) : Access σ Bool := do
  match ← (store.withUnit name UnitReader.view).attempt with
  | .ok v => return !v.isSystem
  | .error (.error _) => return false
  | .error h => .halt h

/-- The names of the units in the order of the store, without those of system units unless they
are asked for. Without them, units that cannot be read are left out, too. -/
def unitNamesFiltered (store : Store σ) (includeSystem : Bool) : Access σ (List String) := do
  let names ← store.unitNames false
  if includeSystem then return names
  names.filterM store.isUserUnit

end Store

end SymbolIndex
