import SymbolIndex.Library.Backend

/-!
# A library beside another state

A library works in the same way on a larger state, of which it uses only its own part.
-/

namespace SymbolIndex

variable {σ τ α : Type}

/-- A use of the first part of a state. -/
def onFirst (f : σ → α × σ) (s : σ × τ) : α × σ × τ := ((f s.1).1, (f s.1).2, s.2)

/-- A change of the first part of a state. -/
def changeFirst (f : σ → σ) (s : σ × τ) : σ × τ := (f s.1, s.2)

/-- The backend beside another state. -/
def Backend.beside (b : Backend σ) : Backend (σ × τ) where
  describeError e := onFirst (b.describeError e)
  disposeError e := changeFirst (b.disposeError e)
  createOptions := onFirst b.createOptions
  addMapping options source target := changeFirst (b.addMapping options source target)
  disposeOptions options := changeFirst (b.disposeOptions options)
  createStore path options := onFirst (b.createStore path options)
  disposeStore store := onFirst (b.disposeStore store)
  units convention store sorted := onFirst (b.units convention store sorted)
  setHandler store handler := onFirst (b.setHandler store handler)
  startListening store wait := onFirst (b.startListening store wait)
  stopListening store := onFirst (b.stopListening store)
  background store := onFirst (b.background store)
  discardUnit store unit := onFirst (b.discardUnit store unit)
  discardRecord store record := changeFirst (b.discardRecord store record)
  purge store := changeFirst (b.purge store)
  unitName store path room := onFirst (b.unitName store path room)
  unitTime store unit := onFirst (b.unitTime store unit)
  createRecordReader store record := onFirst (b.createRecordReader store record)
  disposeRecordReader record := changeFirst (b.disposeRecordReader record)
  symbols convention record pastCache := onFirst (b.symbols convention record pastCache)
  search convention record := onFirst (b.search convention record)
  occurrences convention record selection := onFirst (b.occurrences convention record selection)
  occurrenceSymbol occurrence := onFirst (b.occurrenceSymbol occurrence)
  relations convention occurrence := onFirst (b.relations convention occurrence)
  relationSymbol relation := onFirst (b.relationSymbol relation)
  createUnitReader store unit := onFirst (b.createUnitReader store unit)
  disposeUnitReader unit := changeFirst (b.disposeUnitReader unit)
  unit ref s := b.unit ref s.1
  dependencies convention unit := onFirst (b.dependencies convention unit)
  includes convention unit := onFirst (b.includes convention unit)

end SymbolIndex
