import SymbolIndex.Library.Listing
import SymbolIndex.Store.NameBuffer
import SymbolIndex.Store.Options

/-!
# Stores

An open store of a library. Its readers and its events are in modules of their own.
-/

namespace SymbolIndex

structure Store (σ : Type) where
  library : Library σ
  ref : StoreRef
  /-- The path at which the store was opened. -/
  path : String

namespace Store

variable {σ : Type}

/-- Opens the store at a path. Options of another library are refused before anything else. -/
def openAt (l : Library σ) (path : String) (options : Option (Options σ)) :
    Access σ (Store σ) := do
  if options.any fun o => !o.library.same l then
    Access.fail (.badArgument .foreignOptions)
  let octets ← Access.terminatedPath path
  let answer ← Access.step (l.backend.createStore octets (options.map Options.ref))
  let operation := if options.isSome then "store_create_with_options" else "store_create"
  let ref ← l.created operation answer
  return { library := l, ref, path }

/-- The names of the units, in the order of names or in the order of the store. -/
def units (store : Store σ) (sorted : Bool) : Listing σ String :=
  Listing.map Text.read {
    operation := "store_units_apply"
    convention := store.library.convention
    start := fun c => store.library.backend.units c store.ref sorted }

def unitNames (store : Store σ) (sorted : Bool) : Access σ (List String) :=
  (store.units sorted).toList

/-- The name of the unit that is written for an output file. -/
def unitName (store : Store σ) (outputPath : String) : Access σ String := do
  let octets ← Access.terminatedPath outputPath
  Access.name "store_get_unit_name_from_output_path"
    (store.library.backend.unitName store.ref octets)

/-- When a unit was modified. An error object is an error here even if no failure is reported. -/
def unitTime (store : Store σ) (unit : String) : Access σ Timestamp := do
  let octets ← Access.terminated unit
  let answer ← Access.step (store.library.backend.unitTime store.ref octets)
  if answer.failed || answer.error.isSome then
    store.library.failure "store_get_unit_modification_time" answer.error
  else
    return answer.time

/-- Removes a record from the store. -/
def discardRecord (store : Store σ) (record : String) : Access σ Unit := do
  let octets ← Access.terminated record
  .change (store.library.backend.discardRecord store.ref octets)

/-- Removes what no unit refers to any more. -/
def purge (store : Store σ) : Access σ Unit :=
  .change (store.library.backend.purge store.ref)

/-- The store as it is shown when it is looked into. -/
def inspect (store : Store σ) : String :=
  "Store \x7b path: " ++ Text.quoted store.path ++ ", library: "
    ++ Text.quoted store.library.path ++ " \x7d"

end Store

end SymbolIndex
