import SymbolIndex.Library.Views
import SymbolIndex.Search
import SymbolIndex.Library.Convention

/-!
# The operations of a library

A backend is what a loaded library does, as functions on a state of its own. It hands out
references to the objects that it creates and is given them back. A backend may do anything:
whoever calls it relies on nothing but the types. An operation that takes a callback is
told by which convention the callback is passed.
-/

namespace SymbolIndex

open Text (Octets)

abbrev OptionsRef := Nat
abbrev StoreRef := Nat
abbrev RecordRef := Nat
abbrev UnitRef := Nat
abbrev HandlerRef := Nat

/-- An error object: one of the library, or one that a fault has put in. -/
inductive ErrorRef where
  | own (n : Nat)
  | injected (n : Nat)
deriving DecidableEq

/-- The outcome of creating an object: the object, if there is one, and an error object, if one
has been given. -/
structure Created where
  ref : Option Nat
  error : Option ErrorRef

/-- The outcome of asking for a modification time. -/
structure TimeAnswer where
  failed : Bool
  time : Timestamp
  error : Option ErrorRef

/-- The outcome of asking for a name: its length, which may be any number of 64 bits, and the octets
that have been written to the beginning of the room that was given. -/
structure NameAnswer where
  length : UInt64
  written : Octets

/-- What a library does with an event handler. -/
inductive HandlerCall where
  | deliver (handler : HandlerRef) (notification : NotificationView)
  /-- The library will not use the handler again. -/
  | release (handler : HandlerRef)

/-- The outcome of starting to listen. -/
structure ListenAnswer where
  started : Bool
  error : Option ErrorRef
  calls : List HandlerCall

/-- Which occurrences of a record are asked for. -/
inductive Selection where
  | all
  /-- Those on a number of lines from a line on. -/
  | lines (start count : UInt32)
  /-- Those of one of some symbols that are related to one of some others. No symbols are no
  restriction. -/
  | ofSymbols (symbols related : List SymbolRef)

/-- The operation that lists the selected occurrences. -/
def Selection.operation : Selection → String
  | .all => "record_reader_occurrences_apply"
  | .lines .. => "record_reader_occurrences_in_line_range_apply"
  | .ofSymbols .. => "record_reader_occurrences_of_symbols_apply"

structure Backend (σ : Type) where
  describeError : ErrorRef → σ → Option Octets × σ
  disposeError : ErrorRef → σ → σ
  createOptions : σ → Option OptionsRef × σ
  addMapping : OptionsRef → Octets → Octets → σ → σ
  disposeOptions : OptionsRef → σ → σ
  createStore : Octets → Option OptionsRef → σ → Created × σ
  disposeStore : StoreRef → σ → List HandlerCall × σ
  /-- Traverses the names of the units, in the order of names or in the order of the store. -/
  units : Convention → StoreRef → Bool → σ → Play (Option Octets) × σ
  setHandler : StoreRef → HandlerRef → σ → List HandlerCall × σ
  startListening : StoreRef → Bool → σ → ListenAnswer × σ
  stopListening : StoreRef → σ → List HandlerCall × σ
  /-- What the library does in the background, between two operations. -/
  background : StoreRef → σ → List HandlerCall × σ
  discardUnit : StoreRef → Octets → σ → List HandlerCall × σ
  discardRecord : StoreRef → Octets → σ → σ
  purge : StoreRef → σ → σ
  /-- Writes the name of the unit of an output file to a room of the given size. -/
  unitName : StoreRef → Octets → Nat → σ → NameAnswer × σ
  unitTime : StoreRef → Octets → σ → TimeAnswer × σ
  createRecordReader : StoreRef → Octets → σ → Created × σ
  disposeRecordReader : RecordRef → σ → σ
  /-- Traverses the symbols of a record, past its cache or through it. -/
  symbols : Convention → RecordRef → Bool → σ → Play SymbolView × σ
  search : Convention → RecordRef → σ → SearchPlay SymbolView × σ
  occurrences : Convention → RecordRef → Selection → σ → Play OccurrenceView × σ
  occurrenceSymbol : OccurrenceView → σ → Option SymbolView × σ
  relations : Convention → OccurrenceView → σ → Play RelationView × σ
  relationSymbol : RelationView → σ → Option SymbolView × σ
  createUnitReader : StoreRef → Octets → σ → Created × σ
  disposeUnitReader : UnitRef → σ → σ
  unit : UnitRef → σ → UnitView
  dependencies : Convention → UnitRef → σ → Play DependencyView × σ
  includes : Convention → UnitRef → σ → Play IncludeView × σ

end SymbolIndex
