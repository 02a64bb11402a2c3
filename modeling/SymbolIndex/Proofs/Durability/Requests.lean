import SymbolIndex.Events.Listening
import SymbolIndex.Proofs.Answers.Records
import SymbolIndex.Proofs.Answers.Units
import SymbolIndex.Proofs.Events.Serving

/-!
# Requests to an open store

A client asks a store for what is in it, and has it discard units and records. Each answer, and
what becomes of the contents, can be said of the contents and the mappings of the store alone, and
so can the answers to any number of requests.
-/

namespace SymbolIndex

open Archive (Presents)

variable {α : Type} {ref : StoreRef} {mappings : List (String × String)} {c : StoreContents}
  {a : Archive}

/-! ### Requests and answers -/

/-- What is asked of an open store. -/
inductive Request where
  | unitNames (sorted : Bool)
  | unitNamesFiltered (includeSystem : Bool)
  | unitName (outputPath : String)
  | unitTime (unit : String)
  /-- A unit is opened, copied and closed. -/
  | unit (name : String)
  /-- A record is opened, its symbols are copied, and it is closed. -/
  | symbols (record : String)
  | occurrences (record : String)
  | discardUnit (unit : String)
  | discardRecord (record : String)
  | purge

/-- What the operation asks of the contents, if it asks for nothing else. -/
def StoreDeed.request? : StoreDeed → Option Request
  | unitNames sorted => some (.unitNames sorted)
  | unitNamesFiltered includeSystem => some (.unitNamesFiltered includeSystem)
  | unitName outputPath => some (.unitName outputPath)
  | unitTime unit => some (.unitTime unit)
  | discardUnit unit => some (.discardUnit unit)
  | discardRecord record => some (.discardRecord record)
  | purge => some .purge
  | _ => none

/-- What is answered if nothing goes wrong. -/
inductive Response where
  | names (names : List String)
  | name (name : String)
  | time (time : Timestamp)
  | unit (info : UnitInfo)
  | symbols (infos : List SymbolInfo)
  | occurrences (infos : List OccurrenceInfo)
  | done

/-- An access to the library alone, with its response. -/
def Access.respond (m : Access Archive α) (response : α → Response) :
    Access (Desk × Archive) Response := fun s =>
  ((m s.2).1.map response, s.1, (m s.2).2)

namespace EventStore

/-- Does what is asked of the store. -/
def answer (e : EventStore Archive) : Request → Access (Desk × Archive) Response
  | .unitNames sorted => (e.store.unitNames sorted).respond .names
  | .unitNamesFiltered includeSystem => (e.store.unitNamesFiltered includeSystem).respond .names
  | .unitName outputPath => (e.store.unitName outputPath).respond .name
  | .unitTime unit => (e.store.unitTime unit).respond .time
  | .unit name => (e.store.withUnit name UnitReader.info).respond .unit
  | .symbols record => (e.store.withRecord record RecordReader.symbolInfos).respond .symbols
  | .occurrences record =>
    (e.store.withRecord record RecordReader.occurrenceInfos).respond .occurrences
  | .discardUnit unit => fun s =>
    ((e.discardUnit unit s).1.map fun _ => .done, (e.discardUnit unit s).2)
  | .discardRecord record => (e.store.discardRecord record).respond fun _ => .done
  | .purge => e.store.purge.respond fun _ => .done

/-- Does what is asked of the store, one request after the other. -/
def answers (e : EventStore Archive) : List Request → Desk × Archive → List (Except Halt Response)
  | [], _ => []
  | q :: qs, s => (e.answer q s).1 :: e.answers qs (e.answer q s).2

end EventStore

namespace StoreContents

/-- The answer that the contents give. The paths of units are mapped. -/
def answer (mappings : List (String × String)) (c : StoreContents) :
    Request → Except Halt Response
  | .unitNames sorted => .ok (.names (if sorted then c.sortedUnitNames else c.unitNames))
  | .unitNamesFiltered includeSystem =>
    .ok (.names (if includeSystem then c.unitNames else c.userUnitNames))
  | .unitName outputPath =>
    Text.checked outputPath outputPath ((Access.told (unitName outputPath)).map .name)
  | .unitTime unit => Text.checked unit (Text.quoted unit) ((c.timeOf unit).map .time)
  | .unit name =>
    Text.checked name (Text.quoted name)
      ((c.openUnit name).map fun u => .unit (u.info (remap mappings)))
  | .symbols record =>
    Text.checked record (Text.quoted record)
      ((c.openRecord record).map fun r => .symbols r.symbolInfos)
  | .occurrences record =>
    Text.checked record (Text.quoted record)
      ((c.openRecord record).map fun r => .occurrences r.occurrenceInfos)
  | .discardUnit unit => Text.checked unit (Text.quoted unit) (.ok .done)
  | .discardRecord record => Text.checked record (Text.quoted record) (.ok .done)
  | .purge => .ok .done

/-- The contents after a request. -/
def change (c : StoreContents) : Request → StoreContents
  | .discardUnit unit => if '\x00' ∈ unit.toList then c else c.discardUnit unit
  | .discardRecord record => if '\x00' ∈ record.toList then c else c.discardRecord record
  | .purge => c.purge
  | _ => c

/-- The answers that the contents give to one request after the other. -/
def answers (mappings : List (String × String)) :
    StoreContents → List Request → List (Except Halt Response)
  | _, [] => []
  | c, q :: qs => c.answer mappings q :: (c.change q).answers mappings qs

end StoreContents

/-! ### Answers of a store -/

theorem Access.Answers.respond {P : Archive → Prop} {m : Access Archive α} {answer : Except Halt α}
    (hm : m.Answers P answer) (response : α → Response) :
  (m.respond response).Answers (fun s => P s.2) (answer.map response)
  := by
  intro s hs
  obtain ⟨hanswer, hkept⟩ := hm s.2 hs
  exact ⟨congrArg (Except.map response) hanswer, hkept⟩

namespace Archive.Presents

theorem changeContents (h : a.Presents ref mappings c) (f : StoreContents → StoreContents) :
  (a.changeContents ref f).Presents ref mappings (f c)
  := by
  obtain ⟨x, hx, rfl, rfl⟩ := h.opened
  have hwith := Archive.with_changeContents hx f ref
  rw [if_pos rfl] at hwith
  have hchanged : a.changeContents ref f
      = { a with
          disk := (a.changeContents ref f).disk
          stores := (a.changeContents ref f).stores } := by
    simp only [Archive.changeContents, hx, Archive.persist]
  refine ⟨⟨_, hwith, rfl, rfl⟩, ?_, ?_, ?_⟩
  all_goals rw [hchanged]
  · exact h.errors
  · exact h.records
  · exact h.units

end Archive.Presents

namespace Archive.Presents

/-- To discard a unit that is not there changes nothing. -/
theorem discardUnit (h : a.Presents ref mappings c) (unit : String) :
  (Archive.discardUnit ref (Text.octets unit) a).2.Presents ref mappings (c.discardUnit unit)
  := by
  obtain ⟨x, hx, -, rfl⟩ := h.opened
  simp only [Archive.discardUnit, hx, Text.decode_octets]
  split
  case isTrue hnone =>
      rw [StoreContents.discardUnit_of_none (Option.isNone_iff_eq_none.mp hnone)]
      exact h
  case isFalse => exact h.changeContents fun c => c.discardUnit unit

theorem discardRecord (h : a.Presents ref mappings c) (record : String) :
  (Archive.discardRecord ref (Text.octets record) a).Presents ref mappings
    (c.discardRecord record)
  := by
  rw [Archive.discardRecord, Text.decode_octets]
  exact h.changeContents fun c => c.discardRecord record

end Archive.Presents

namespace EventStore

variable {e : EventStore Archive} (honest : e.store.library.Honest)

include honest

theorem answer_discardUnit (unit : String) {s : Desk × Archive}
    (h : s.2.Presents e.store.ref mappings c) :
  (e.answer (.discardUnit unit) s).1 = c.answer mappings (.discardUnit unit)
    ∧ (e.answer (.discardUnit unit) s).2.2.Presents e.store.ref mappings
        (c.change (.discardUnit unit))
  := by
  have hbackend : e.store.library.backend = Archive.backend := honest
  simp only [answer, EventStore.discardUnit, Access.terminated_eq, StoreContents.answer,
    StoreContents.change, Text.checked]
  split
  case isTrue => exact ⟨rfl, h⟩
  case isFalse =>
      refine ⟨rfl, ?_⟩
      simp only [bind, Access.bind, Access.pure, Access.change, calling, hbackend]
      exact h.discardUnit unit

theorem answer_discardRecord (record : String) {s : Desk × Archive}
    (h : s.2.Presents e.store.ref mappings c) :
  (e.answer (.discardRecord record) s).1 = c.answer mappings (.discardRecord record)
    ∧ (e.answer (.discardRecord record) s).2.2.Presents e.store.ref mappings
        (c.change (.discardRecord record))
  := by
  have hbackend : e.store.library.backend = Archive.backend := honest
  simp only [answer, Access.respond, Store.discardRecord, Access.terminated_eq,
    StoreContents.answer, StoreContents.change, Text.checked]
  split
  case isTrue => exact ⟨rfl, h⟩
  case isFalse =>
      refine ⟨rfl, ?_⟩
      simp only [bind, Access.bind, Access.pure, Access.change, hbackend]
      exact h.discardRecord record

/-- A store answers as its contents do, and its contents change as they are asked to. -/
theorem answer_eq (q : Request) {s : Desk × Archive}
    (h : s.2.Presents e.store.ref mappings c) :
  (e.answer q s).1 = c.answer mappings q
    ∧ (e.answer q s).2.2.Presents e.store.ref mappings (c.change q)
  := by
  have hbackend : e.store.library.backend = Archive.backend := honest
  cases q with
  | unitNames sorted => exact (Store.unitNames_answers honest sorted).respond _ s h
  | unitNamesFiltered includeSystem =>
      exact (Store.unitNamesFiltered_answers honest includeSystem).respond _ s h
  | unitName outputPath =>
      have hanswers := (Store.unitName_answers honest outputPath).respond .name s h
      rw [Text.map_checked] at hanswers
      exact hanswers
  | unitTime unit =>
      have hanswers := (Store.unitTime_answers honest unit).respond .time s h
      rw [Text.map_checked] at hanswers
      exact hanswers
  | unit name =>
      have hanswers := (Store.unit_answers honest name).respond .unit s h
      rw [Text.map_checked_map] at hanswers
      exact hanswers
  | symbols record =>
      have hanswers := (Store.symbols_answers honest record).respond .symbols s h
      rw [Text.map_checked_map] at hanswers
      exact hanswers
  | occurrences record =>
      have hanswers := (Store.occurrences_answers honest record).respond .occurrences s h
      rw [Text.map_checked_map] at hanswers
      exact hanswers
  | discardUnit unit => exact answer_discardUnit honest unit h
  | discardRecord record => exact answer_discardRecord honest record h
  | purge =>
      have hpurged := h.changeContents StoreContents.purge
      simp only [answer, Access.respond, Store.purge, Access.change, hbackend]
      exact ⟨rfl, hpurged⟩

/-- A store answers any number of requests as its contents do. -/
theorem answers_eq (qs : List Request) {s : Desk × Archive}
    (h : s.2.Presents e.store.ref mappings c) :
  e.answers qs s = c.answers mappings qs
  := by
  induction qs generalizing c s with
  | nil => rfl
  | cons q qs ih =>
      obtain ⟨hanswer, hkept⟩ := answer_eq honest q h
      rw [answers, StoreContents.answers, hanswer, ih hkept]

end EventStore

end SymbolIndex
