import SymbolIndex.Store.Basic
import SymbolIndex.Library.Infos

/-!
# Record readers

A record reader lists the symbols of a record and where they occur. The symbols that it lists
through its cache can be used to ask for the occurrences of some of them.
-/

namespace SymbolIndex

structure RecordReader (σ : Type) where
  store : Store σ
  ref : RecordRef
  name : String

/-- A symbol to ask for, with the identity of the library it was read through. -/
structure HeldSymbol where
  library : Nat
  view : SymbolView

namespace RecordReader

variable {σ ρ : Type}

/-- Opens the record of the given name. -/
def openIn (store : Store σ) (name : String) : Access σ (RecordReader σ) := do
  let octets ← Access.terminated name
  let answer ← Access.step (store.library.backend.createRecordReader store.ref octets)
  let ref ← store.library.created "record_reader_create" answer
  return { store, ref, name }

def library (r : RecordReader σ) : Library σ := r.store.library

def close (r : RecordReader σ) : σ → σ := r.library.backend.disposeRecordReader r.ref

/-- The symbols of the record, past the reader's cache or through it. -/
def listing (r : RecordReader σ) (pastCache : Bool) : Listing σ SymbolView where
  operation := "record_reader_symbols_apply"
  convention := r.library.convention
  start c := r.library.backend.symbols c r.ref pastCache

/-- The symbols of the record, past the reader's cache. -/
def symbols (r : RecordReader σ) : Listing σ SymbolView := r.listing true

/-- Copies of the symbols. -/
def symbolInfos (r : RecordReader σ) : Access σ (List SymbolInfo) :=
  r.symbols.gather fun v => .pure v.info

/-- The symbols of the record, to be asked for. -/
def cachedSymbols (r : RecordReader σ) : Access σ (List HeldSymbol) :=
  (r.listing false).gather fun v => .pure ⟨r.library.identity, v⟩

/-- Asks a filter about each symbol, and gives the accepted ones to a receiver. Both may use the
library. -/
def search (r : RecordReader σ) (f : Searcher (ρ × σ) SymbolView) : Access (ρ × σ) Outcome :=
  fun s =>
    match r.library.backend.search r.library.convention r.ref s.2 with
    | (play, library) =>
      driveSearch r.library.convention "record_reader_search_symbols" play f (s.1, library)

/-- The selected occurrences. -/
def select (r : RecordReader σ) (selection : Selection) : Listing σ OccurrenceView where
  operation := selection.operation
  convention := r.library.convention
  start c := r.library.backend.occurrences c r.ref selection

/-- The occurrences of the record in the order of the source. -/
def occurrences (r : RecordReader σ) : Listing σ OccurrenceView := r.select .all

/-- The occurrences on a number of lines from a line on. -/
def occurrencesOnLines (r : RecordReader σ) (start count : UInt32) : Listing σ OccurrenceView :=
  r.select (.lines start count)

/-- The occurrences of one of some symbols that are related to one of some others. No symbols are
no restriction. Symbols of another library are refused. -/
def occurrencesOfSymbols (r : RecordReader σ) (symbols related : List HeldSymbol) :
    Except Error (Listing σ OccurrenceView) :=
  if (symbols ++ related).any fun h => h.library != r.library.identity then
    .error (.badArgument .foreignSymbols)
  else
    .ok (r.select (.ofSymbols (symbols.map (·.view.ref)) (related.map (·.view.ref))))

/-- Copies of the occurrences with their relations. -/
def occurrenceInfos (r : RecordReader σ) : Access σ (List OccurrenceInfo) :=
  r.occurrences.gather r.library.occurrenceInfo

/-- The reader as it is shown when it is looked into. -/
def inspect (r : RecordReader σ) : String :=
  "RecordReader \x7b name: " ++ Text.quoted r.name ++ ", .. \x7d"

end RecordReader

/-- Opens a record for one access, and closes it however the access ends. -/
def Store.withRecord {σ α : Type} (store : Store σ) (name : String)
    (use : RecordReader σ → Access σ α) : Access σ α := do
  let reader ← RecordReader.openIn store name
  fun s => match use reader s with
    | (result, s) => (result, reader.close s)

end SymbolIndex
