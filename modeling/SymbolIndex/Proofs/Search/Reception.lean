import SymbolIndex.Archive.Backend
import SymbolIndex.Contents.Sample
import SymbolIndex.Faults.Backend
import SymbolIndex.Library.InProcess
import SymbolIndex.Store.Record
import SymbolIndex.Proofs.Search.Settlement

/-!
# What a search delivers

A client of a search that never panics writes down the items that it accepts and the items that it
receives. While the search runs only their numbers are compared. So a search that ends well has
passed on every item that the library has given, but whether these are the accepted ones is up to
the library, which may withhold an accepted item or give another one in its place.
-/

namespace SymbolIndex

open SearchHistory

variable {ρ σ α : Type}

/-- The items that a client has accepted, and those that it has received, in order. -/
structure Dealings (α : Type) where
  accepted : List α := []
  received : List α := []

namespace Client

/-- The client of a library that writes its dealings down. -/
def recording (k : Client (ρ × σ) α) : Searcher ((Dealings α × ρ) × σ) α where
  filter a := fun ((d, r), s) =>
    match k.filter a (r, s) with
    | (v, r, s) =>
      (.verdict v, ({ d with accepted := d.accepted ++ if v.accept then [a] else [] }, r), s)
  receive a := fun ((d, r), s) =>
    match k.receive a (r, s) with
    | (r, s) => (none, ({ d with received := d.received ++ [a] }, r), s)

/-- The state without the dealings. -/
def unrecorded (s : (Dealings α × ρ) × σ) : ρ × σ := (s.1.2, s.2)

/-- What is written down is what has been accepted and received, and nothing has panicked. -/
structure Records (k : Client (ρ × σ) α) (r₀ : ρ × σ) (h : List (SearchCall α))
    (s : (Dealings α × ρ) × σ) : Prop where
  trace : k.searcher.Trace r₀ h (unrecorded s)
  accepted : s.1.1.accepted = SearchHistory.accepted h
  received : s.1.1.received = SearchHistory.received h
  calm : panic? h = none

/-- A call that runs neither function adds nothing to what is written down. -/
theorem Records.idle {k : Client (ρ × σ) α} {r₀ : ρ × σ} {h : List (SearchCall α)}
    {s : (Dealings α × ρ) × σ} (hs : k.Records r₀ h s) {call : SearchCall α}
    (trace : k.searcher.Trace r₀ (h ++ [call]) (unrecorded s)) (haccepted : call.accepted? = none)
    (hreceived : call.received? = none) (hpanic : call.panic? = none) :
  k.Records r₀ (h ++ [call]) s
  := by
  constructor
  · apply trace
  · simp [haccepted, hs.accepted]
  · simp [hreceived, hs.received]
  · simp [hpanic, hs.calm]

theorem records_of_trace (k : Client (ρ × σ) α) (r₀ : ρ) (s₀ : σ) {h : List (SearchCall α)}
    {s : (Dealings α × ρ) × σ} (trace : k.recording.Trace (({}, r₀), s₀) h s) :
  k.Records (r₀, s₀) h s
  := by
  induction trace with
  | start =>
      constructor
      · apply Searcher.Trace.start
      · rfl
      · rfl
      · rfl
  | @filter h s past open_ a ih =>
      constructor
      · apply ih.trace.filter open_ a
      · cases haccept : (k.filter a (unrecorded s)).1.accept
        all_goals
          rw [unrecorded] at haccept
          simp [recording, SearchCall.accepted?, ih.accepted, haccept]
      · simp [recording, SearchCall.received?, ih.received]
      · simp [recording, SearchCall.panic?, ih.calm]
  | late past ended a ih => apply ih.idle (ih.trace.late ended a) rfl rfl rfl
  | @receive h s past receptive a ih =>
      constructor
      · apply ih.trace.receive receptive a
      · simp [recording, SearchCall.accepted?, ih.accepted]
      · simp [recording, SearchCall.received?, ih.received]
      · simp [recording, SearchCall.panic?, ih.calm]
  | refuse past idle a ih => apply ih.idle (ih.trace.refuse idle a) rfl rfl rfl

end Client

/-- A search without panics ends well if nothing came after a stop, nothing was given that no
acceptance called for, and the library was asked to stop or has gone through all items. -/
theorem searchSettlement_ok_iff (operation : String) {h : List (SearchCall α)}
    (hcalm : panic? h = none) (complete : Bool) :
  (∃ outcome, searchSettlement operation h complete = .ok outcome)
    ↔ late h = 0 ∧ unrequested h = 0 ∧ (stopped h = true ∨ complete = true)
  := by
  rw [searchSettlement, hcalm]
  by_cases hlate : late h = 0
  · by_cases hunrequested : unrequested h = 0
    · cases hstopped : stopped h
      all_goals
        cases complete <;> simp [hlate, hunrequested]
    · simp [hlate, hunrequested, Nat.pos_iff_ne_zero]
  · simp [hlate, Nat.pos_iff_ne_zero]

/-- If no item was given in vain, the receiver was run on every item that the library has given. -/
theorem SearchHistory.received_eq_given {h : List (SearchCall α)} (hnone : unrequested h = 0) :
  received h = given h
  := by
  rw [unrequested, List.countP_eq_zero] at hnone
  apply List.filterMap_congr
  intro call hcall
  rcases call with _ | ⟨a, _ | reply⟩
  · rfl
  · exfalso
    apply hnone _ hcall
    rfl
  · rfl

/-- A search of a record by a client that never panics is settled by its history. The receiver has
had at most as many items as were accepted. If the search ends well, it has had exactly the
accepted items if and only if these are the items that the library has given. -/
theorem RecordReader.search_delivers (r : RecordReader σ) (k : Client (ρ × σ) SymbolView)
    (x : ρ) (s : σ) :
  ∃ (h : List (SearchCall SymbolView)) (complete : Bool) (d : Dealings SymbolView) (x' : ρ)
      (s' : σ),
    let start := r.library.backend.search r.library.convention r.ref s
    let result := searchSettlement "record_reader_search_symbols" h complete
    start.1.Runs h complete
      ∧ k.searcher.Trace (x, start.2) h (x', s')
      ∧ r.search k.searcher (x, s) = (result, x', s')
      ∧ r.search k.recording (({}, x), s) = (result, (d, x'), s')
      ∧ d.accepted = accepted h
      ∧ d.received = received h
      ∧ d.received.length ≤ d.accepted.length
      ∧ ((∃ outcome, result = .ok outcome)
          ↔ late h = 0 ∧ unrequested h = 0 ∧ (stopped h = true ∨ complete = true))
      ∧ ((∃ outcome, result = .ok outcome)
          → (d.received = d.accepted ↔ given h = d.accepted))
  := by
  rcases hstart : r.library.backend.search r.library.convention r.ref s with ⟨play, s₁⟩
  obtain ⟨h, complete, ⟨⟨d, x'⟩, s'⟩, hruns, htrace, hdrive⟩ :=
    driveSearch_traced r.library.convention "record_reader_search_symbols" play k.recording
      (({}, x), s₁)
  have hrecords := k.records_of_trace x s₁ htrace
  have hok := searchSettlement_ok_iff "record_reader_search_symbols" hrecords.calm complete
  use h, complete, d, x', s', hruns, hrecords.trace
  constructor
  · have hmap := driveSearch_map r.library.convention "record_reader_search_symbols" play
      k.recording Client.unrecorded k.searcher (fun _ _ => rfl) (fun _ _ => rfl) (({}, x), s₁)
    rw [hdrive] at hmap
    rw [search, hstart]
    apply hmap
  constructor
  · rw [search, hstart]
    apply hdrive
  use hrecords.accepted, hrecords.received
  constructor
  · rw [hrecords.accepted, hrecords.received]
    apply hrecords.trace.received_le
  use hok
  intro hsuccess
  obtain ⟨_, hunrequested, _⟩ := hok.mp hsuccess
  rw [hrecords.received, received_eq_given hunrequested]

/-- A library that gives nothing to the receiver is not found out: all three symbols of a record
are accepted, none is received, and the search is reported as completed. -/
theorem RecordReader.search_withholds :
  let record := StoreContents.sampleMainRecord
  let archive : Archive := {
    records := (({} : Table ArchiveRecord).insert {
      directory := .ofText "/main"
      symbols := record.symbolViews 0
      occurrences := record.occurrenceViews 0 }).2 }
  let reader : RecordReader (Archive × FaultState) := {
    store := {
      library := {
        identity := 0
        path := InProcessLibrary.path
        version := .required
        formatVersion := 13
        hasClosures := true
        convention := .closure
        backend := Archive.backend.beside.withFaults { search := { skipReceiver := true } } }
      ref := 0
      path := "/main" }
    ref := 0
    name := record.name }
  let client : Client (Unit × Archive × FaultState) SymbolView :=
    ⟨fun _ s => (.accepted, s), fun _ s => s⟩
  let ended := reader.search client.recording (({}, ()), archive, {})
  ended.1 = .ok .completed
    ∧ ended.2.1.1.accepted.length = 3
    ∧ ended.2.1.1.received.length = 0
    ∧ ended.2.1.1.received ≠ ended.2.1.1.accepted
  := by
  intro record archive reader client ended
  have hresult : ended.1 = .ok .completed := rfl
  have haccepted : ended.2.1.1.accepted.length = 3 := rfl
  have hreceived : ended.2.1.1.received.length = 0 := rfl
  use hresult, haccepted, hreceived
  intro hsame
  rw [hsame, haccepted] at hreceived
  cases hreceived

end SymbolIndex
