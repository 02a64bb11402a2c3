import SymbolIndex.Proofs.Answers.Deeds
import SymbolIndex.Proofs.Answers.Traversals
import SymbolIndex.Proofs.Durability.Reopening
import SymbolIndex.Proofs.Events.Calls

/-!
# Operations that fail

An operation that ends with an error has changed nothing: what clients hold, what is on the disk
and what is open are as before, and no handler has been called. If the error is a report of the
store, an error object has been created for the directory of the store and disposed of. Otherwise
nothing has been counted at all.
-/

namespace SymbolIndex

open Text (Octets)

variable {α β : Type} {a : Archive} {s s' : Scene} {directory : Path} {err : Error}

/-! ### Traces of errors -/

/-- One more error object that has been created and disposed of. -/
def Tally.erred (t : Tally) : Tally :=
  { t with errors := ⟨t.errors.created + 1, t.errors.disposed + 1⟩ }

/-- An error object has been created for a directory and disposed of. -/
def Archive.erred (directory : Path) (a : Archive) : Archive :=
  { a with errors := { a.errors with next := a.errors.next + 1 } }.enter directory Tally.erred

/-- What an error leaves behind: that there has been an error object, if it is a report of a
store. -/
def Error.trace (directory : Path) (a : Archive) : Error → Archive
  | .store _ => a.erred directory
  | _ => a

theorem Error.trace_of_none (h : err.storeError? = none) :
  err.trace directory a = a
  := by
  cases err with
  | store e => cases h
  | _ => rfl

theorem Table.Sound.erase_insert {t : Table α} (ht : t.Sound) (x : α) :
  (t.insert x).2.erase t.next = { t with next := t.next + 1 }
  := by
  have hothers : t.entries.filter (fun e => e.1 != t.next) = t.entries := by
    rw [List.filter_eq_self]
    intro e he
    simpa using Nat.ne_of_lt (ht.fresh e he)
  simp [Table.insert, Table.erase, hothers]

theorem Ledger.enter_enter (l : Ledger) (directory : Path) (f g : Tally → Tally) :
  (l.enter directory f).enter directory g = l.enter directory fun t => g (f t)
  := by
  simp only [enter, Ledger.mk.injEq]
  funext d
  split <;> rfl

/-- The error of an operation that the archive has reported. -/
def StoreError.reported (operation description : String) : StoreError where
  operation
  description :=
    Text.readTerminated (some (Archive.ArchiveError.octets { directory := [], description }))

namespace Archive

theorem disposeError_report (ha : a.errors.Sound) (directory : Path) (description : String) :
  disposeError (a.report directory description).1 (a.report directory description).2
    = a.erred directory
  := by
  have hget : (a.report directory description).2.errors.get? a.errors.next
      = some { directory, description } := ha.get?_insert _
  have hreported : (a.report directory description).1 = .own a.errors.next := rfl
  simp only [hreported, disposeError, hget]
  simp only [report, enter, ha.erase_insert, Ledger.enter_enter]
  rfl

end Archive

namespace Library

variable {l : Library Archive} (honest : l.Honest)

include honest

/-- An operation that has been reported ends with what its error object says. -/
theorem failure_report (ha : a.errors.Sound) (operation : String) (directory : Path)
    (description : String) :
  (l.failure operation (some (a.report directory description).1)
      (a.report directory description).2 : Except Halt α × Archive)
    = (.error (.error (.store (.reported operation description))), a.erred directory)
  := by
  have hbackend : l.backend = Archive.backend := honest
  have hget : (a.report directory description).2.errors.get? a.errors.next
      = some { directory, description } := ha.get?_insert _
  have hreported : (a.report directory description).1 = .own a.errors.next := rfl
  have hdisposed := Archive.disposeError_report ha directory description
  rw [hreported] at hdisposed
  simp only [failure, takeError, hbackend, Archive.backend, hreported, Archive.describeError, hget,
    hdisposed]
  rfl

end Library

/-! ### Accesses -/

namespace Access

/-- If the access ends with an error, it leaves the trace of that error and nothing else. -/
def Traceless (directory : Path) (m : Access Archive α) (a : Archive) : Prop :=
  ∀ err a', m a = (.error (.error err), a') → a' = err.trace directory a

theorem traceless_of_ok {m : Access Archive α} {x : α} (h : (m a).1 = .ok x) :
  m.Traceless directory a
  := by
  intro err a' hm
  rw [hm] at h
  cases h

theorem traceless_refused (b : BadArgument) :
  (fail (.badArgument b) : Access Archive α).Traceless directory a
  := by
  intro err a' hm
  cases hm
  rfl

theorem traceless_terminated {f : Octets → Access Archive α} (text : String)
    (hf : '\x00' ∉ text.toList → (f (Text.octets text)).Traceless directory a) :
  (terminated text >>= f).Traceless directory a
  := by
  rw [terminated_eq]
  split
  case isTrue => exact traceless_refused _
  case isFalse hzero => exact hf hzero

theorem traceless_terminatedPath {f : Octets → Access Archive α} (path : String)
    (hf : '\x00' ∉ path.toList → (f (Text.octets path)).Traceless directory a) :
  (terminatedPath path >>= f).Traceless directory a
  := by
  rw [terminatedPath_eq]
  split
  case isTrue => exact traceless_refused _
  case isFalse hzero => exact hf hzero

/-- An object that the archive has opened, or the error in its place. -/
theorem traceless_created {l : Library Archive} (honest : l.Honest) (ha : a.errors.Sound)
    (operation : String) {k : ObjectKind} (handedOut : Nat)
    {create : Archive → Created × Archive}
    (h : Archive.Opens handedOut k directory a (create a)) (f : Nat → α) :
  (Access.step create >>= fun answer =>
    l.created operation answer >>= fun ref => pure (f ref)).Traceless directory a
  := by
  intro err a' hm
  simp only [Bind.bind, Access.bind, Access.step] at hm
  rcases h with ⟨description, hrefuse⟩ | ⟨hanswer, -⟩
  · have hfailure := Library.failure_report (α := Nat) honest ha operation directory description
    have hcreated : l.created operation (create a).1 (create a).2
        = (.error (.error (.store (.reported operation description))), a.erred directory) := by
      rw [hrefuse]
      exact hfailure
    rw [hcreated] at hm
    cases hm
    rfl
  · rw [hanswer] at hm
    cases hm

end Access

theorem Store.openAt_traceless {l : Library Archive} (honest : l.Honest) (ha : a.errors.Sound)
    (path : String) (options : Option (Options Archive)) :
  (openAt l path options).Traceless (Path.ofText path) a
  := by
  have hbackend : l.backend = Archive.backend := honest
  rw [openAt]
  split
  · exact Access.traceless_refused _
  · apply Access.traceless_terminatedPath
    intro _
    have hopens : Archive.Opens 0 .store (Path.ofText (Text.decode (Text.octets path))) a _ :=
      Archive.createStore_opens (Text.octets path) (options.map Options.ref)
    rw [Text.decode_octets] at hopens
    apply Access.traceless_created honest ha _ 0
    rw [hbackend]
    exact hopens

/-- A mapping is refused if there is a zero in it, and only then. -/
theorem Options.add_refused {o : Options Archive} {source target : String} {a' : Archive}
    (h : o.add source target a = (.error (.error err), a')) :
  err.storeError? = none ∧ a' = a
  := by
  simp only [add, Access.terminated_eq] at h
  split at h
  · cases h
    exact ⟨rfl, rfl⟩
  · split at h
    · cases h
      exact ⟨rfl, rfl⟩
    · cases h

theorem Store.discardRecord_traceless (store : Store Archive) (record : String) :
  (store.discardRecord record).Traceless directory a
  := by
  apply Access.traceless_terminated
  intro _
  exact Access.traceless_of_ok rfl

theorem Store.unitName_traceless {store : Store Archive} (honest : store.library.Honest)
    (outputPath : String) :
  (store.unitName outputPath).Traceless directory a
  := by
  have hanswer := (unitName_answers (P := fun _ => True) honest outputPath a trivial).1
  rw [Text.checked] at hanswer
  split at hanswer
  case isTrue hzero =>
      rw [unitName, Access.terminatedPath_eq, if_pos hzero]
      exact Access.traceless_refused _
  case isFalse =>
      intro err a' hname
      rw [hname] at hanswer
      exact absurd hanswer.symm (Access.told_ne_error _ err)

section

variable {store : Store Archive} (honest : store.library.Honest) (ha : a.errors.Sound)
  {x : ArchiveStore} (hx : a.stores.get? store.ref = some x)

include honest ha hx

theorem RecordReader.openIn_traceless (record : String) :
  (openIn store record).Traceless x.directory a
  := by
  have hbackend : store.library.backend = Archive.backend := honest
  apply Access.traceless_terminated
  intro _
  apply Access.traceless_created honest ha (k := .record) _ 0
  rw [hbackend]
  exact Archive.createRecordReader_opens hx _

theorem UnitReader.openIn_traceless (unit : String) :
  (openIn store unit).Traceless x.directory a
  := by
  have hbackend : store.library.backend = Archive.backend := honest
  apply Access.traceless_terminated
  intro _
  apply Access.traceless_created honest ha (k := .unit) _ 0
  rw [hbackend]
  exact Archive.createUnitReader_opens hx _

theorem Store.unitTime_traceless (unit : String) :
  (store.unitTime unit).Traceless x.directory a
  := by
  have hbackend : store.library.backend = Archive.backend := honest
  apply Access.traceless_terminated
  intro _ err a' hm
  simp only [bind, Access.bind, Access.step, hbackend, Archive.backend, Archive.unitTime, hx,
    Text.decode_octets] at hm
  cases hu : x.contents.unit? unit with
  | some u =>
      rw [hu] at hm
      cases hm
  | none =>
      rw [hu] at hm
      have hfailure := Library.failure_report (α := Timestamp) honest ha
        "store_get_unit_modification_time" x.directory ("unit not found: " ++ unit)
      cases hfailure.symm.trans hm
      rfl

end

/-- Listening begins, or it is refused with an error object or without one. -/
theorem Archive.startListening_cases {ref : StoreRef} {x : ArchiveStore}
    (hx : a.stores.get? ref = some x) (wait : Bool) :
  (startListening ref wait a).1.started = true
    ∨ startListening ref wait a = (⟨false, none, []⟩, a)
    ∨ ∃ description, startListening ref wait a
        = (⟨false, some (a.report x.directory description).1, []⟩,
            (a.report x.directory description).2)
  := by
  simp only [startListening, hx]
  split
  · exact .inr (.inl rfl)
  · split
    · exact .inr (.inr ⟨_, rfl⟩)
    · split <;> exact .inl rfl

/-- When listening is refused, no handler is called. -/
theorem EventStore.start_traceless {e : EventStore Archive} (honest : e.store.library.Honest)
    (ha : a.errors.Sound) {x : ArchiveStore} (hx : a.stores.get? e.store.ref = some x) (wait : Bool)
    {desk : Desk} {y : Desk × Archive}
    (h : e.start wait (desk, a) = (.error (.error err), y)) :
  y = (desk, err.trace x.directory a)
  := by
  have hbackend : e.store.library.backend.startListening = Archive.startListening :=
    congrArg Backend.startListening honest
  simp only [start, hbackend] at h
  rcases Archive.startListening_cases hx wait with hstarted | hrefused | ⟨description, hrefused⟩
  · have hfirst := congrArg Prod.fst h
    simp only [hstarted, ↓reduceIte, Library.releaseError_ok] at hfirst
    cases hfirst
  · rw [hrefused] at h
    cases h
    rfl
  · have hfailure := Library.failure_report (α := Unit) honest ha
      "store_start_unit_event_listening" x.directory description
    simp only [hrefused, Bool.false_eq_true, ↓reduceIte, hfailure] at h
    cases h
    rfl

/-! ### Operations of a client -/

namespace Scene

theorem use_failed {m : Access Archive α} {keep : α → Holdings → Holdings} {h : Halt}
    (hm : use m keep s = (.error h, s')) :
  ∃ a', m s.2 = (.error h, a') ∧ s' = (s.1, a')
  := by
  rw [use] at hm
  rcases hresult : m s.2 with ⟨h' | x, a'⟩
  all_goals
    rw [hresult] at hm
    cases hm
  exact ⟨a', rfl, rfl⟩

theorem useDesk_failed {m : Access (Desk × Archive) α} {keep : α → Holdings → Holdings} {h : Halt}
    (hm : useDesk m keep s = (.error h, s')) :
  ∃ y, m (s.1.desk, s.2) = (.error h, y) ∧ s' = ({ s.1 with desk := y.1 }, y.2)
  := by
  rw [useDesk] at hm
  rcases hresult : m (s.1.desk, s.2) with ⟨h' | x, y⟩
  all_goals
    rw [hresult] at hm
    cases hm
  exact ⟨y, rfl, rfl⟩

theorem use_traceless {m : Access Archive α} {keep : α → Holdings → Holdings}
    (htrace : m.Traceless directory s.2) (hm : use m keep s = (.error (.error err), s')) :
  s' = (s.1, err.trace directory s.2)
  := by
  obtain ⟨a', hfailed, rfl⟩ := use_failed hm
  rw [htrace err a' hfailed]

end Scene

namespace StoreDeed

variable {e : EventStore Archive} {x : ArchiveStore} (honest : e.store.library.Honest)
  (hx : s.2.stores.get? e.store.ref = some x)

include honest hx

/-- An operation on a store that fails leaves the trace of its error and nothing else. -/
theorem act_failed {handedOut : Nat} (hs : s.2.Sound handedOut) {deed : StoreDeed}
    (h : deed.act e s = (.error (.error err), s')) :
  s' = (s.1, err.trace x.directory s.2)
  := by
  have ha := hs.errorTable
  have hpresents := hs.presents hx
  cases deed with
  | setHandler _ | subscribe | stop | background | close => cases h
  | discardUnit unit =>
      rw [act] at h
      obtain ⟨y, hfailed, rfl⟩ := Scene.useDesk_failed h
      rw [EventStore.discardUnit, Access.terminated_eq] at hfailed
      split at hfailed
      · cases hfailed
        rfl
      · cases hfailed
  | start wait =>
      rw [act] at h
      obtain ⟨y, hfailed, rfl⟩ := Scene.useDesk_failed h
      rw [EventStore.start_traceless honest ha hx wait hfailed]
  | unitNames sorted =>
      have hok := congrArg Prod.fst (Store.unitNames_eq honest hx sorted)
      rw [act] at h
      exact Scene.use_traceless (Access.traceless_of_ok hok) h
  | unitNamesFiltered includeSystem =>
      have hok := (Store.unitNamesFiltered_answers honest includeSystem s.2 hpresents).1
      rw [act] at h
      exact Scene.use_traceless (Access.traceless_of_ok hok) h
  | unitName outputPath =>
      rw [act] at h
      exact Scene.use_traceless (Store.unitName_traceless honest outputPath) h
  | unitTime unit =>
      rw [act] at h
      exact Scene.use_traceless (Store.unitTime_traceless honest ha hx unit) h
  | discardRecord record =>
      rw [act] at h
      exact Scene.use_traceless (e.store.discardRecord_traceless record) h
  | purge =>
      rw [act] at h
      exact Scene.use_traceless (Access.traceless_of_ok rfl) h
  | openRecord record =>
      rw [act] at h
      exact Scene.use_traceless (RecordReader.openIn_traceless honest ha hx record) h
  | openUnit unit =>
      rw [act] at h
      exact Scene.use_traceless (UnitReader.openIn_traceless honest ha hx unit) h

omit hx in
/-- No handler is called in an operation on a store that fails. -/
theorem calls_failed (hx : s.2.stores.get? e.store.ref = some x) {deed : StoreDeed} {h : Halt}
    (hfailed : (deed.act e s).1 = .error h) :
  deed.calls e s.1.desk s.2 = []
  := by
  cases deed with
  | discardUnit unit =>
      rw [calls_of_turns honest hx rfl, hfailed]
      rfl
  | start wait =>
      rw [calls_of_turns honest hx rfl, hfailed]
      rfl
  | setHandler _ | subscribe | stop | background | close => cases hfailed
  | _ => rfl

end StoreDeed

/-- A copy of a unit can always be made. -/
theorem UnitReader.info_ok {u : UnitReader Archive} (honest : u.library.Honest) (a : Archive) :
  ∃ info, (u.info a).1 = .ok info
  := by
  simp only [info, bind, Access.bind, view_honest honest, dependencyInfos_honest honest,
    includeInfos_honest honest]
  exact ⟨_, rfl⟩

/-- No operation on a record reader fails. -/
theorem RecordDeed.act_ok {r : RecordReader Archive} (honest : r.library.Honest)
    (deed : RecordDeed) (s : Scene) :
  (deed.act r s).1 = .ok ()
  := by
  rw [act_fst]
  cases deed with
  | symbolInfos => rw [given, Access.gives, RecordReader.symbolInfos_honest honest]; rfl
  | cachedSymbols => rw [given, Access.gives, RecordReader.cachedSymbols_honest honest]; rfl
  | occurrenceInfos => rw [given, Access.gives, RecordReader.occurrenceInfos_honest honest]; rfl
  | close => rfl

theorem UnitDeed.act_ok {u : UnitReader Archive} (honest : u.library.Honest) (deed : UnitDeed)
    (s : Scene) :
  (deed.act u s).1 = .ok ()
  := by
  rw [act_fst]
  cases deed with
  | view => rfl
  | info =>
      obtain ⟨info, hinfo⟩ := UnitReader.info_ok honest s.2
      rw [given, Access.gives, hinfo]
      rfl
  | dependencyInfos => rw [given, Access.gives, UnitReader.dependencyInfos_honest honest]; rfl
  | includeInfos => rw [given, Access.gives, UnitReader.includeInfos_honest honest]; rfl
  | close => rfl

theorem ItemDeed.run_ok {l : Library Archive} (honest : l.Honest) (deed : ItemDeed) (s : Scene) :
  (deed.run l s).1 = .ok ()
  := by
  have hbackend : l.backend = Archive.backend := honest
  rw [run_fst]
  cases deed with
  | occurrenceSymbol v => rw [given, Access.gives, Library.occurrenceSymbol, hbackend]; rfl
  | occurrenceInfo v => rw [given, Access.gives, Library.occurrenceInfo_honest honest]; rfl
  | relationSymbol v => rw [given, Access.gives, Library.relationSymbol, hbackend]; rfl
  | relationInfo v => rw [given, Access.gives, Library.relationInfo_honest honest]; rfl

/-- The directory of a store that is opened or used. -/
def Deed.directory? (h : Holdings) : Deed → Option Path
  | openStore _ path _ => some (Path.ofText path)
  | onStore ref _ => (h.store? ref).map fun e => e.store.directory
  | _ => none

/-- A store that is held is open for its directory. -/
theorem Scene.Sound.store_open (hs : s.Sound) {ref : StoreRef} {e : EventStore Archive}
    (he : s.1.store? ref = some e) :
  ∃ x, s.2.stores.get? e.store.ref = some x ∧ x.directory = e.store.directory
  := by
  obtain ⟨-, hheld⟩ := Holdings.mem_of_store? he
  exact Archive.store_of_has (hs.held ▸ hheld)

/-- An operation that fails leaves the trace of its error and nothing else. -/
theorem Deed.run_failed (hs : s.Sound) {deed : Deed}
    (h : deed.run s = (.error (.error err), s')) :
  ∃ uses directory, s' = ({ s.1 with uses }, err.trace directory s.2)
    ∧ (deed.directory? s.1 = some directory ∨ err.storeError? = none)
  := by
  cases deed with
  | changeDisk f | onDesk deed | createOptions l => cases h
  | addMapping options source target =>
      simp only [run] at h
      split at h
      case h_1 => cases h
      case h_2 o _ =>
          obtain ⟨a', hrefused, rfl⟩ := Scene.use_failed h
          obtain ⟨hnone, rfl⟩ := Options.add_refused hrefused
          refine ⟨s.1.uses, [], ?_, .inr hnone⟩
          rw [Error.trace_of_none hnone]
  | disposeOptions options =>
      simp only [run] at h
      split at h <;> cases h
  | openStore l path options =>
      simp only [run] at h
      have hopen := Store.openAt_traceless (l.withArchive_honest l.convention)
        hs.archive.errorTable path (options.bind s.1.option?)
      exact ⟨_, Path.ofText path, Scene.use_traceless (s := (s.1.note _, s.2)) hopen h, .inl rfl⟩
  | onStore ref deed =>
      cases he : s.1.store? ref with
      | none =>
          rw [run_onStore_of_none he] at h
          cases h
      | some e =>
          obtain ⟨rfl, -, honest, -⟩ := hs.store_held he
          obtain ⟨x, hx, hdirectory⟩ := hs.store_open he
          rw [run_onStore he] at h
          have htrace := StoreDeed.act_failed (s := (s.1.note _, s.2)) honest hx hs.archive h
          refine ⟨_, x.directory, htrace, .inl ?_⟩
          rw [directory?, he, Option.map_some, hdirectory]
  | onRecord record deed =>
      simp only [run, RecordDeed.run] at h
      split at h
      case h_1 => cases h
      case h_2 r hr =>
          have hok := deed.act_ok (hs.honest.record hr)
            (s.1.note ⟨r.store.directory, false⟩, s.2)
          rw [h] at hok
          cases hok
  | onUnit unit deed =>
      simp only [run, UnitDeed.run] at h
      split at h
      case h_1 => cases h
      case h_2 u hu =>
          have hok := deed.act_ok (hs.honest.unit hu)
            (s.1.note ⟨u.store.directory, false⟩, s.2)
          rw [h] at hok
          cases hok
  | onItem l deed =>
      have hok := deed.run_ok (l.withArchive_honest l.convention) s
      simp only [run] at h
      rw [h] at hok
      cases hok

/-- No handler is called in an operation that fails. -/
theorem Deed.calls_failed (hs : s.Sound) {deed : Deed} {h : Halt}
    (hfailed : (deed.run s).1 = .error h) (ref : StoreRef) :
  deed.calls ref s = []
  := by
  rw [calls]
  split
  case h_1 e d hat =>
      obtain ⟨rfl, he⟩ := of_at? hat
      obtain ⟨rfl, -, honest, x, hx⟩ := hs.store_held he
      rw [run_onStore he] at hfailed
      exact StoreDeed.calls_failed (s := (s.1.note _, s.2)) honest hx hfailed
  case h_2 => rfl

/-! ### Nothing else -/

/-- Nothing has happened but that an error object has been created for a directory and disposed of,
if there is such a directory. -/
structure Scene.OnlyErred (counted : Option Path) (s s' : Scene) : Prop where
  held : s'.1 = { s.1 with uses := s'.1.uses }
  disk : s'.2.disk = s.2.disk
  options : s'.2.options = s.2.options
  stores : s'.2.stores = s.2.stores
  records : s'.2.records = s.2.records
  units : s'.2.units = s.2.units
  errors : s'.2.errors.entries = s.2.errors.entries
  tally : ∀ d, s'.2.ledger.tally d
    = if counted = some d then (s.2.ledger.tally d).erred else s.2.ledger.tally d

namespace Scene

theorem onlyErred_none (s : Scene) (uses : List Use) :
  OnlyErred none s ({ s.1 with uses }, s.2)
  := by
  constructor <;> intros <;> rfl

theorem onlyErred_erred (s : Scene) (uses : List Use) (directory : Path) :
  OnlyErred (some directory) s ({ s.1 with uses }, s.2.erred directory)
  := by
  refine ⟨rfl, rfl, rfl, rfl, rfl, rfl, rfl, ?_⟩
  intro d
  simp only [Archive.erred, Archive.enter, Ledger.enter, Option.some.injEq, eq_comm]

end Scene

/-- An operation that fails does nothing else than to count its error. It counts it for the
directory that it is on, if the error is a report of the store, and otherwise not at all. -/
theorem Deed.run_onlyErred (hs : s.Sound) {deed : Deed}
    (h : deed.run s = (.error (.error err), s')) :
  ∃ counted, s.OnlyErred counted s'
    ∧ counted.isSome = err.storeError?.isSome
    ∧ ∀ d, counted = some d → deed.directory? s.1 = some d
  := by
  obtain ⟨uses, directory, rfl, hdirectory⟩ := run_failed hs h
  cases hreport : err.storeError? with
  | none =>
      rw [Error.trace_of_none hreport]
      exact ⟨none, s.onlyErred_none uses, rfl, nofun⟩
  | some e =>
      cases err with
      | store e' =>
          refine ⟨some directory, s.onlyErred_erred uses directory, rfl, ?_⟩
          rintro d ⟨rfl⟩
          rcases hdirectory with hdirectory | hnone
          · exact hdirectory
          · cases hnone
      | _ => cases hreport

/-- A traversal that fails has been refused. Nothing is handed out, and nothing is counted. -/
theorem Reading.apply_onlyErred {t : Reading α} {f : Applier Scene α} (hs : s.Sound)
    (h : t.apply f s = (.error (.error err), s')) :
  s.OnlyErred none s' ∧ err.storeError? = none
  := by
  obtain ⟨hrefused, rfl⟩ := (t.apply_failed_iff hs f).mp h
  rw [t.refused_eq hrefused]
  refine ⟨?_, rfl⟩
  rw [begun]
  split
  · exact s.onlyErred_none _
  · exact s.onlyErred_none s.1.uses

end SymbolIndex
