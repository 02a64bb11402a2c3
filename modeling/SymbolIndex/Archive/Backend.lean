import SymbolIndex.Archive.Readers
import SymbolIndex.Archive.Stores

/-!
# The archive as a library

Both conventions of calling are served alike: each operation that takes a callback hands out the
items of a list and obeys the callback.
-/

namespace SymbolIndex

/-- What an archive does as a library. -/
def Archive.backend : Backend Archive where
  describeError := describeError
  disposeError := disposeError
  createOptions := createOptions
  addMapping := addMapping
  disposeOptions := disposeOptions
  createStore := createStore
  disposeStore := disposeStore
  units _ store sorted a :=
    (.each ((a.unitNamesOf store sorted).map fun u => some (Text.octets u)), a)
  setHandler := setHandler
  startListening := startListening
  stopListening := stopListening
  background := background
  discardUnit := discardUnit
  discardRecord := discardRecord
  purge := purge
  unitName _ path room a := (writeUnitName path room, a)
  unitTime := unitTime
  createRecordReader := createRecordReader
  disposeRecordReader := disposeRecordReader
  symbols _ record _ a := (.each (a.symbolsOf record), a)
  search _ record a := (.each (a.symbolsOf record), a)
  occurrences _ record selection a :=
    (.each (a.occurrencesOf record selection), a.countQuery record selection)
  occurrenceSymbol o a := (some o.symbol, a)
  relations _ o a := (.each o.relations, a)
  relationSymbol r a := (some r.symbol, a)
  createUnitReader := createUnitReader
  disposeUnitReader := disposeUnitReader
  unit := unitView
  dependencies _ unit a := (.each (a.dependenciesOf unit), a)
  includes _ unit a := (.each (a.includesOf unit), a)

end SymbolIndex
