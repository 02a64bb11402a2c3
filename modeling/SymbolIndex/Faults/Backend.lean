import SymbolIndex.Archive.Ledger
import SymbolIndex.Faults.Plays
import SymbolIndex.Library.Beside

/-!
# Libraries with faults

A faulty library does what another library does, but for the faults of a plan. It writes a line
into a log at each call of the operations that create objects, hand out items or write names.
-/

namespace SymbolIndex

open Text (Octets)

/-- What a faulty library keeps beside the state of the other library. -/
structure FaultState where
  /-- The calls that have been logged, last one first. -/
  log : List String := []
  /-- The error objects that have been put in. -/
  errors : Count := {}
  /-- How often a name has been asked for. -/
  names : Nat := 0
  /-- How often the symbol of an occurrence has been asked for. -/
  occurrenceSymbols : Nat := 0
  /-- How often the symbol of a relation has been asked for. -/
  relationSymbols : Nat := 0

namespace FaultState

/-- Logs a call. -/
def note (s : FaultState) (line : String) : FaultState := { s with log := line :: s.log }

/-- Puts in an error object. -/
def inject (s : FaultState) : ErrorRef × FaultState :=
  (.injected s.errors.created, { s with errors := s.errors.create })

/-- Takes the lines of the log, first one first. -/
def takeLog (s : FaultState) : List String × FaultState := (s.log.reverse, { s with log := [] })

end FaultState

/-- The name of an operation by the convention by which it takes its callback. -/
def Convention.operation (c : Convention) (name : String) : String :=
  match c with
  | .closure => name
  | .contextPointer => name ++ "_f"

namespace FaultPlan

variable {σ α : Type} (p : FaultPlan)

/-- Logs a call before something is done. -/
def logged {β : Type} (line : String) (f : σ × FaultState → β) (s : σ × FaultState) : β :=
  f (s.1, s.2.note line)

/-- An operation that creates an object. -/
def create (c : Creator) (f : σ × FaultState → Created × σ × FaultState) :
    σ × FaultState → Created × σ × FaultState :=
  logged c.operation fun s =>
    if c ∈ p.failing then
      if c ∈ p.straying then
        let (e, faults) := s.2.inject
        (⟨none, some e⟩, s.1, faults)
      else (⟨none, none⟩, s)
    else
      let (created, s) := f s
      if created.ref.isSome && decide (c ∈ p.straying) then
        let (e, faults) := s.2.inject
        (⟨created.ref, some e⟩, s.1, faults)
      else (created, s)

/-- An operation that hands out items, logged with the given arguments. -/
def list (c : Convention) (operation arguments : String)
    (f : σ × FaultState → Play α × σ × FaultState) :
    σ × FaultState → Play α × σ × FaultState :=
  logged (c.operation operation ++ arguments) fun s =>
    let (play, s) := f s
    (play.distort (p.listing operation) 0, s)

/-- The arguments of an operation that lists occurrences, as they are logged. -/
def selectionText : Selection → String
  | .all => ""
  | .lines start count => " start=" ++ toString start.toNat ++ " count=" ++ toString count.toNat
  | .ofSymbols symbols related =>
    " symbols=" ++ toString symbols.length ++ " related=" ++ toString related.length

/-- Calls of handlers with what is shown of the notifications. -/
def calls (f : σ × FaultState → List HandlerCall × σ × FaultState) (s : σ × FaultState) :
    List HandlerCall × σ × FaultState :=
  let (calls, s) := f s
  (calls.map p.event.call, s)

/-- The operations that look at error objects. The ones that have been put in are known here. -/
def withErrors (b : Backend (σ × FaultState)) : Backend (σ × FaultState) :=
  { b with
    describeError := fun e s =>
      match e with
      | .own n => b.describeError (.own n) s
      | .injected _ => (p.description, s)
    disposeError := fun e s =>
      match e with
      | .own n => b.disposeError (.own n) s
      | .injected _ => (s.1, { s.2 with errors := s.2.errors.dispose }) }

/-- The operations that create objects. -/
def withCreators (b : Backend (σ × FaultState)) : Backend (σ × FaultState) :=
  { b with
    createOptions := logged Creator.options.operation fun s =>
      if .options ∈ p.failing then (none, s) else b.createOptions s
    createStore := fun path options =>
      p.create (if options.isSome then .storeWithOptions else .store) (b.createStore path options)
    createRecordReader := fun store record =>
      p.create .recordReader (b.createRecordReader store record)
    createUnitReader := fun store unit => p.create .unitReader (b.createUnitReader store unit) }

/-- The operations that hand out items, and the search. -/
def withListings (b : Backend (σ × FaultState)) : Backend (σ × FaultState) :=
  { b with
    units := fun c store sorted s =>
      let (play, s) := p.list c "store_units_apply" (if sorted then " sorted=1" else " sorted=0")
        (b.units c store sorted) s
      (play.replace p.unitNames, s)
    symbols := fun c record pastCache s =>
      let (play, s) := p.list c "record_reader_symbols_apply"
        (if pastCache then " nocache=true" else " nocache=false") (b.symbols c record pastCache) s
      (play.map p.shownSymbol, s)
    occurrences := fun c record selection =>
      p.list c selection.operation (selectionText selection)
        (b.occurrences c record selection)
    relations := fun c occurrence =>
      p.list c "occurrence_relations_apply" "" (b.relations c occurrence)
    dependencies := fun c unit s =>
      let (play, s) := p.list c "unit_reader_dependencies_apply" "" (b.dependencies c unit) s
      (play.map p.shownDependency, s)
    includes := fun c unit s =>
      let (play, s) := p.list c "unit_reader_includes_apply" "" (b.includes c unit) s
      (play.map p.shownInclude, s)
    search := fun c record => logged (c.operation "record_reader_search_symbols") fun s =>
      let (play, s) := b.search c record s
      ((play.distort p.search []).map p.shownSymbol, s) }

/-- The operations that show something. -/
def withViews (b : Backend (σ × FaultState)) : Backend (σ × FaultState) :=
  { b with
    unit := fun unit s => p.shownUnit (b.unit unit s)
    occurrenceSymbol := fun occurrence s =>
      let (symbol, s) := b.occurrenceSymbol occurrence s
      (if p.occurrenceSymbolMissing = some s.2.occurrenceSymbols then none
        else symbol.map p.shownSymbol,
        s.1, { s.2 with occurrenceSymbols := s.2.occurrenceSymbols + 1 })
    relationSymbol := fun relation s =>
      let (symbol, s) := b.relationSymbol relation s
      (if p.relationSymbolMissing = some s.2.relationSymbols then none
        else symbol.map p.shownSymbol,
        s.1, { s.2 with relationSymbols := s.2.relationSymbols + 1 }) }

/-- The operations that answer questions about units. -/
def withAnswers (b : Backend (σ × FaultState)) : Backend (σ × FaultState) :=
  { b with
    unitName := fun store path room =>
      logged ("store_get_unit_name_from_output_path capacity=" ++ toString room) fun s =>
        match p.name with
        | none => b.unitName store path room s
        | some f => (f.answer s.2.names room, s.1, { s.2 with names := s.2.names + 1 })
    unitTime := fun store unit s =>
      match p.time with
      | none => b.unitTime store unit s
      | some .failWithoutError => (⟨true, {}, none⟩, s)
      | some .succeedWithError =>
        let (answer, s) := b.unitTime store unit s
        if answer.failed then (answer, s)
        else
          let (e, faults) := s.2.inject
          ({ answer with error := some e }, s.1, faults) }

/-- The operations during which handlers may be called. -/
def withHandlers (b : Backend (σ × FaultState)) : Backend (σ × FaultState) :=
  { b with
    disposeStore := fun store => p.calls (b.disposeStore store)
    setHandler := fun store handler => p.calls (b.setHandler store handler)
    startListening := fun store wait s =>
      let (answer, s) := b.startListening store wait s
      ({ answer with calls := answer.calls.map p.event.call }, s)
    stopListening := fun store => p.calls (b.stopListening store)
    background := fun store => p.calls (b.background store)
    discardUnit := fun store unit => p.calls (b.discardUnit store unit) }

end FaultPlan

/-- The library with the faults of a plan. -/
def Backend.withFaults {σ : Type} (b : Backend (σ × FaultState)) (p : FaultPlan) :
    Backend (σ × FaultState) :=
  b |> p.withErrors |> p.withCreators |> p.withListings |> p.withViews |> p.withAnswers
    |> p.withHandlers

end SymbolIndex
