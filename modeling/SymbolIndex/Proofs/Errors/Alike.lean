import SymbolIndex.Proofs.Errors.Failures

/-!
# What errors and counts do not decide

Two archives are alike if they differ in their error objects and in what has been counted at most.
Whatever is done with one of them ends as it does with the other, and leaves them alike: nothing
that a client is given depends on which error objects there have been.
-/

namespace SymbolIndex

open Text (Octets)

variable {σ α β : Type}

/-! ### Accesses in related states -/

/-- In related states the access ends in the same way, and it leaves related states. -/
def Access.Respects (R : σ → σ → Prop) (m : Access σ α) : Prop :=
  ∀ s t, R s t → (m s).1 = (m t).1 ∧ R (m s).2 (m t).2

namespace Access

variable {R : σ → σ → Prop}

/-- An error or a panic is the same in every state. -/
theorem respects_halt (h : Halt) :
  (Access.halt h : Access σ α).Respects R
  := fun _ _ hst => ⟨rfl, hst⟩

theorem respects_pure (x : α) :
  (Access.pure x : Access σ α).Respects R
  := fun _ _ hst => ⟨rfl, hst⟩

/-- Two accesses that end alike go on alike. -/
theorem bind_related {m m' : Access σ α} {f : α → Access σ β} {s t : σ}
    (hm : (m s).1 = (m' t).1 ∧ R (m s).2 (m' t).2)
    (hf : ∀ x, (m s).1 = .ok x → (f x).Respects R) :
  ((m >>= f) s).1 = ((m' >>= f) t).1 ∧ R ((m >>= f) s).2 ((m' >>= f) t).2
  := by
  obtain ⟨hresult, hleft⟩ := hm
  simp only [Bind.bind, Access.bind]
  rcases hs : m s with ⟨h | x, s'⟩
  all_goals
    rcases ht : m' t with ⟨h' | x', t'⟩
    all_goals
      rw [hs, ht] at hresult hleft
      cases hresult
  · exact ⟨rfl, hleft⟩
  · exact hf x (congrArg Prod.fst hs) s' t' hleft

/-- One access after the other, whatever the first one gives. -/
theorem respects_bind {m : Access σ α} {f : α → Access σ β} (hm : m.Respects R)
    (hf : ∀ x, (f x).Respects R) :
  (m >>= f).Respects R
  := fun s t hst => bind_related (hm s t hst) fun x _ => hf x

/-- What is read from the state, if related states have the same of it. -/
theorem respects_of_reads {m : Access σ α} {read : σ → Except Halt α}
    (hm : ∀ s, m s = (read s, s)) (hread : ∀ s t, R s t → read s = read t) :
  m.Respects R
  := by
  intro s t hst
  rw [hm s, hm t]
  exact ⟨hread s t hst, hst⟩

/-- A change respects a relation that it carries over. -/
theorem respects_change {f : σ → σ} (hf : ∀ s t, R s t → R (f s) (f t)) :
  (Access.change f).Respects R
  := fun s t hst => ⟨rfl, hf s t hst⟩

/-- A text is ended, or refused for a zero in it, without a look at the state. -/
theorem respects_terminated (text : String) :
  (terminated text : Access σ Octets).Respects R
  := by
  rw [terminated_eq]
  split
  · apply respects_halt
  · apply respects_pure

theorem respects_terminatedPath (path : String) :
  (terminatedPath path : Access σ Octets).Respects R
  := by
  rw [terminatedPath_eq]
  split
  · apply respects_halt
  · apply respects_pure

/-- An access whose errors are caught. -/
theorem respects_attempt {m : Access σ α} (hm : m.Respects R) :
  m.attempt.Respects R
  := fun s t hst => ⟨congrArg Except.ok (hm s t hst).1, (hm s t hst).2⟩

/-- The same items are kept if each one is looked at alike. -/
theorem respects_filterM {keep : α → Access σ Bool} (hkeep : ∀ x, (keep x).Respects R)
    (items : List α) :
  (items.filterM keep).Respects R
  := by
  have haux : ∀ kept, (items.filterAuxM keep kept).Respects R := by
    induction items with
    | nil => exact fun kept => respects_pure kept
    | cons x items ih => exact fun kept => respects_bind (hkeep x) fun _ => ih _
  exact respects_bind (haux []) fun kept => respects_pure kept.reverse

end Access

/-! ### Archives that are alike -/

/-- The archives differ in their error objects and in what has been counted at most. -/
inductive Archive.Alike (a : Archive) : Archive → Prop where
  | intro (errors : Table ArchiveError) (ledger : Ledger) (sound : a.errors.Sound)
      (sound' : errors.Sound) : Alike a { a with errors, ledger }

namespace Archive

variable {a b c : Archive}

namespace Alike

theorem sound_left (h : a.Alike b) :
  a.errors.Sound
  := by
  cases h
  assumption

theorem sound_right (h : a.Alike b) :
  b.errors.Sound
  := by
  cases h
  assumption

/-- An archive whose error objects are in order is like itself. -/
theorem refl (ha : a.errors.Sound) :
  a.Alike a
  := .intro a.errors a.ledger ha ha

theorem symm (h : a.Alike b) :
  b.Alike a
  := by
  obtain ⟨errors, ledger, ha, hb⟩ := h
  exact .intro a.errors a.ledger hb ha

theorem trans (h : a.Alike b) (h' : b.Alike c) :
  a.Alike c
  := by
  obtain ⟨errors, ledger, ha, -⟩ := h
  obtain ⟨errors', ledger', -, hc⟩ := h'
  exact .intro errors' ledger' ha hc

end Alike

/-! ### Operations of alike archives -/

/-- An operation ends alike in archives that are alike, and leaves them alike. -/
def Insensitive (f : Archive → β × Archive) : Prop :=
  ∀ a b, Alike a b → (f a).1 = (f b).1 ∧ Alike (f a).2 (f b).2

/-- A change leaves archives alike that are alike. -/
def Retained (f : Archive → Archive) : Prop := ∀ a b, Alike a b → Alike (f a) (f b)

/-- An operation on one store sees nothing but this store. It may note what its handler has counted.
-/
theorem withStore_insensitive (ref : StoreRef)
    (f : ArchiveStore → List HandlerCall × ArchiveStore) :
  Insensitive (withStore ref f)
  := by
  rintro a - ⟨errors, ledger, ha, hb⟩
  simp only [withStore]
  cases a.stores.get? ref with
  | none => exact ⟨rfl, .intro errors ledger ha hb⟩
  | some x => exact ⟨rfl, .intro errors _ ha hb⟩

/-- Contents are changed, and written to the disk, without a look at errors or counts. -/
theorem changeContents_retained (ref : StoreRef) (f : StoreContents → StoreContents) :
  Retained (changeContents ref f)
  := by
  rintro a - ⟨errors, ledger, ha, hb⟩
  simp only [changeContents]
  cases a.stores.get? ref with
  | none => exact .intro errors ledger ha hb
  | some x => exact .intro errors ledger ha hb

/-- Whether a handler is told of a removal depends on the store alone. -/
theorem discardUnit_insensitive (ref : StoreRef) (octets : Octets) :
  Insensitive (discardUnit ref octets)
  := by
  intro a b h
  have hchanged := changeContents_retained ref (fun c => c.discardUnit (Text.decode octets)) a b h
  obtain ⟨errors, ledger, ha, hb⟩ := h
  simp only [discardUnit]
  cases a.stores.get? ref with
  | none => exact ⟨rfl, .intro errors ledger ha hb⟩
  | some x =>
      simp only
      split
      · exact ⟨rfl, .intro errors ledger ha hb⟩
      · exact ⟨rfl, hchanged⟩

/-- The handler of a store that is disposed of is called alike, and the store is counted. -/
theorem disposeStore_insensitive (ref : StoreRef) :
  Insensitive (disposeStore ref)
  := by
  rintro a - ⟨errors, ledger, ha, hb⟩
  simp only [disposeStore]
  cases a.stores.get? ref with
  | none => exact ⟨rfl, .intro errors ledger ha hb⟩
  | some x => exact ⟨rfl, .intro errors _ ha hb⟩

/-- A reader that is disposed of is counted, and no other reader changes. -/
theorem disposeRecordReader_retained (ref : RecordRef) :
  Retained (disposeRecordReader ref)
  := by
  rintro a - ⟨errors, ledger, ha, hb⟩
  simp only [disposeRecordReader]
  cases a.records.get? ref with
  | none => exact .intro errors ledger ha hb
  | some r => exact .intro errors _ ha hb

theorem disposeUnitReader_retained (ref : UnitRef) :
  Retained (disposeUnitReader ref)
  := by
  rintro a - ⟨errors, ledger, ha, hb⟩
  simp only [disposeUnitReader]
  cases a.units.get? ref with
  | none => exact .intro errors ledger ha hb
  | some u => exact .intro errors _ ha hb

/-! ### Reports of alike archives -/

/-- Alike archives give no error objects, or error objects that say the same. -/
inductive Reports : Option ErrorRef × Archive → Option ErrorRef × Archive → Prop where
  | nothing {a b : Archive} (h : a.Alike b) : Reports (none, a) (none, b)
  | report {a b : Archive} (h : a.Alike b) (directory : Path) (description : String) :
      Reports (some (a.report directory description).1, (a.report directory description).2)
        (some (b.report directory description).1, (b.report directory description).2)

/-- An error object that has come and gone in both archives leaves them alike. -/
theorem Alike.erred (h : a.Alike b) (directory : Path) :
  (a.erred directory).Alike (b.erred directory)
  := by
  obtain ⟨errors, ledger, ha, hb⟩ := h
  refine .intro { errors with next := errors.next + 1 } _ ⟨?_, ha.distinct⟩ ⟨?_, hb.distinct⟩
  · exact fun e he => Nat.lt_succ_of_lt (ha.fresh e he)
  · exact fun e he => Nat.lt_succ_of_lt (hb.fresh e he)

/-- There is an error object in both archives or in neither. -/
theorem Reports.isSome_eq {x y : Option ErrorRef × Archive} (h : Reports x y) :
  x.1.isSome = y.1.isSome
  := by
  cases h <;> rfl

theorem Reports.alike {x y : Option ErrorRef × Archive} (h : Reports x y) :
  x.2.Alike y.2
  := by
  cases h with
  | nothing h => exact h
  | report h directory description =>
      obtain ⟨errors, ledger, ha, hb⟩ := h
      exact .intro _ _ (ha.insert _) (hb.insert _)

/-- An object is created in alike archives under the same reference, or it is refused in both for
the same reason. -/
def Creates (create : Archive → Created × Archive) : Prop :=
  ∀ a b, Alike a b → (create a).1.ref = (create b).1.ref
    ∧ Reports ((create a).1.error, (create a).2) ((create b).1.error, (create b).2)

/-- What is refused is refused with the description of the reason. -/
theorem refuse_reports (h : a.Alike b) (directory : Path) (description : String) :
  (a.refuse directory description).1.ref = (b.refuse directory description).1.ref
    ∧ Reports ((a.refuse directory description).1.error, (a.refuse directory description).2)
      ((b.refuse directory description).1.error, (b.refuse directory description).2)
  := ⟨rfl, .report h directory description⟩

/-- A store is created if its document can be read. The disk decides. -/
theorem createStore_creates (octets : Octets) (options : Option OptionsRef) :
  Creates (createStore octets options)
  := by
  intro a b h
  have hrefuse := refuse_reports h (Path.ofText (Text.decode octets))
  obtain ⟨errors, ledger, ha, hb⟩ := h
  simp only [createStore]
  cases a.disk.readStore (Text.decode octets) with
  | error e => exact hrefuse _
  | ok contents => exact ⟨rfl, .nothing (.intro errors _ ha hb)⟩

/-- A reader is created if the store has the record, and the record misses no symbol. -/
theorem createRecordReader_creates (store : StoreRef) (octets : Octets) :
  Creates (createRecordReader store octets)
  := by
  intro a b h
  have hrefuse := refuse_reports h
  obtain ⟨errors, ledger, ha, hb⟩ := h
  simp only [createRecordReader]
  cases a.stores.get? store with
  | none => exact ⟨rfl, .nothing (.intro errors ledger ha hb)⟩
  | some x =>
      simp only
      cases x.contents.record? (Text.decode octets) with
      | none => exact hrefuse _ _
      | some r =>
          simp only
          cases r.missingSymbol? with
          | some i => exact hrefuse _ _
          | none => exact ⟨rfl, .nothing (.intro errors _ ha hb)⟩

/-- A reader is created if the store has the unit. -/
theorem createUnitReader_creates (store : StoreRef) (octets : Octets) :
  Creates (createUnitReader store octets)
  := by
  intro a b h
  have hrefuse := refuse_reports h
  obtain ⟨errors, ledger, ha, hb⟩ := h
  simp only [createUnitReader]
  cases a.stores.get? store with
  | none => exact ⟨rfl, .nothing (.intro errors ledger ha hb)⟩
  | some x =>
      simp only
      cases x.contents.unit? (Text.decode octets) with
      | none => exact hrefuse _ _
      | some u => exact ⟨rfl, .nothing (.intro errors _ ha hb)⟩

/-- The time of a unit is given, or it is reported that there is no such unit. -/
theorem unitTime_reports (h : a.Alike b) (ref : StoreRef) (octets : Octets) :
  (unitTime ref octets a).1.failed = (unitTime ref octets b).1.failed
    ∧ (unitTime ref octets a).1.time = (unitTime ref octets b).1.time
    ∧ Reports ((unitTime ref octets a).1.error, (unitTime ref octets a).2)
      ((unitTime ref octets b).1.error, (unitTime ref octets b).2)
  := by
  have hreport := Reports.report h
  obtain ⟨errors, ledger, ha, hb⟩ := h
  simp only [unitTime]
  cases a.stores.get? ref with
  | none => exact ⟨rfl, rfl, .nothing (.intro errors ledger ha hb)⟩
  | some x =>
      simp only
      cases x.contents.unit? (Text.decode octets) with
      | some u => exact ⟨rfl, rfl, .nothing (.intro errors ledger ha hb)⟩
      | none => exact ⟨rfl, rfl, hreport _ _⟩

/-- Listening starts with the same calls of the handler. A store with a fault may fail without a
report, or start with one. -/
theorem startListening_reports (h : a.Alike b) (ref : StoreRef) (wait : Bool) :
  (startListening ref wait a).1.started = (startListening ref wait b).1.started
    ∧ (startListening ref wait a).1.calls = (startListening ref wait b).1.calls
    ∧ Reports ((startListening ref wait a).1.error, (startListening ref wait a).2)
      ((startListening ref wait b).1.error, (startListening ref wait b).2)
  := by
  have hreport := Reports.report h
  obtain ⟨errors, ledger, ha, hb⟩ := h
  simp only [startListening]
  cases a.stores.get? ref with
  | none => exact ⟨rfl, rfl, .nothing (.intro errors ledger ha hb)⟩
  | some x =>
      simp only
      split
      · exact ⟨rfl, rfl, .nothing (.intro errors ledger ha hb)⟩
      · split
        · exact ⟨rfl, rfl, hreport _ _⟩
        · split
          · generalize a.stores.modify ref _ = stores
            exact ⟨rfl, rfl, .report (a := { a with stores }) (.intro errors ledger ha hb) _ _⟩
          · exact ⟨rfl, rfl, .nothing (.intro errors ledger ha hb)⟩

end Archive

open Archive (Alike Reports Insensitive Retained Creates)

/-! ### Errors of a library -/

namespace Library

variable {l : Library Archive} (honest : l.Honest) {x y : Option ErrorRef × Archive}

include honest

/-- Error objects that say the same are the same error. -/
theorem failure_respects (h : Reports x y) (operation : String) :
  (l.failure operation x.1 x.2 : Except Halt α × Archive).1 = (l.failure operation y.1 y.2).1
    ∧ Alike (l.failure operation x.1 x.2 : Except Halt α × Archive).2
      (l.failure operation y.1 y.2 : Except Halt α × Archive).2
  := by
  cases h with
  | nothing h => exact ⟨rfl, h⟩
  | report h directory description =>
      rw [failure_report honest h.sound_left, failure_report honest h.sound_right]
      exact ⟨rfl, h.erred directory⟩

/-- Error objects that are not wanted are disposed of in both archives. -/
theorem releaseError_respects (h : Reports x y) :
  Alike (l.releaseError x.1 x.2).2 (l.releaseError y.1 y.2).2
  := by
  cases h with
  | nothing h => exact h
  | report h directory description =>
      simp only [releaseError, Access.change, takeError_honest honest,
        Archive.disposeError_report h.sound_left, Archive.disposeError_report h.sound_right]
      exact h.erred directory

/-- Answers with the same reference come to the same, and so do refusals. -/
theorem created_related {answer answer' : Created} {a b : Archive}
    (href : answer.ref = answer'.ref) (h : Reports (answer.error, a) (answer'.error, b))
    (operation : String) :
  (l.created operation answer a).1 = (l.created operation answer' b).1
    ∧ Alike (l.created operation answer a).2 (l.created operation answer' b).2
  := by
  rcases answer with ⟨ref, error⟩
  rcases answer' with ⟨ref', error'⟩
  obtain rfl : ref = ref' := href
  cases ref with
  | none => exact failure_respects honest h operation
  | some ref =>
      have hok : (l.releaseError error a).1 = (l.releaseError error' b).1 := by
        rw [releaseError_ok, releaseError_ok]
      exact Access.bind_related ⟨hok, releaseError_respects honest h⟩
        fun _ _ => Access.respects_pure ref

/-- What has been created, or the error in its place. -/
theorem created_respects {create : Archive → Created × Archive} (hcreate : Creates create)
    (operation : String) (f : Nat → α) :
  (Access.step create >>= fun answer =>
    l.created operation answer >>= fun ref => pure (f ref)).Respects Alike
  := by
  intro a b h
  obtain ⟨href, hreports⟩ := hcreate a b h
  exact Access.bind_related (m := l.created operation (create a).1)
    (created_related honest href hreports operation) fun ref _ => Access.respects_pure (f ref)

end Library

/-! ### Operations of a library -/

/-- A store is opened, or refused, alike. -/
theorem Store.openAt_respects {l : Library Archive} (honest : l.Honest) (path : String)
    (options : Option (Options Archive)) :
  (openAt l path options).Respects Alike
  := by
  have hbackend : l.backend = Archive.backend := honest
  rw [openAt]
  split
  · exact Access.respects_halt _
  · refine Access.respects_bind (Access.respects_terminatedPath path) fun octets => ?_
    apply Library.created_respects honest
    rw [hbackend]
    exact Archive.createStore_creates octets _

/-- A record is opened, or refused, alike. -/
theorem RecordReader.openIn_respects {store : Store Archive} (honest : store.library.Honest)
    (record : String) :
  (openIn store record).Respects Alike
  := by
  have hbackend : store.library.backend = Archive.backend := honest
  refine Access.respects_bind (Access.respects_terminated record) fun octets => ?_
  apply Library.created_respects honest
  rw [hbackend]
  exact Archive.createRecordReader_creates store.ref octets

/-- A unit is opened, or refused, alike. -/
theorem UnitReader.openIn_respects {store : Store Archive} (honest : store.library.Honest)
    (unit : String) :
  (openIn store unit).Respects Alike
  := by
  have hbackend : store.library.backend = Archive.backend := honest
  refine Access.respects_bind (Access.respects_terminated unit) fun octets => ?_
  apply Library.created_respects honest
  rw [hbackend]
  exact Archive.createUnitReader_creates store.ref octets

namespace UnitReader

variable {u : UnitReader Archive} (honest : u.library.Honest)

include honest

/-- What a unit says of itself is read from its reader. -/
theorem view_respects :
  u.view.Respects Alike
  := by
  apply Access.respects_of_reads (view_honest honest)
  rintro a - ⟨errors, ledger, -, -⟩
  rfl

theorem dependencyInfos_respects :
  u.dependencyInfos.Respects Alike
  := by
  apply Access.respects_of_reads (dependencyInfos_honest honest)
  rintro a - ⟨errors, ledger, -, -⟩
  rfl

theorem includeInfos_respects :
  u.includeInfos.Respects Alike
  := by
  apply Access.respects_of_reads (includeInfos_honest honest)
  rintro a - ⟨errors, ledger, -, -⟩
  rfl

/-- A unit is copied piece by piece, and each piece is read from its reader. -/
theorem info_respects :
  u.info.Respects Alike
  := by
  refine Access.respects_bind (view_respects honest) fun v => ?_
  refine Access.respects_bind (dependencyInfos_respects honest) fun dependencies => ?_
  refine Access.respects_bind (includeInfos_respects honest) fun includes => ?_
  exact Access.respects_pure _

theorem close_retained :
  Retained u.close
  := by
  have hbackend : u.library.backend = Archive.backend := honest
  simp only [close, hbackend]
  exact Archive.disposeUnitReader_retained u.ref

end UnitReader

namespace RecordReader

variable {r : RecordReader Archive} (honest : r.library.Honest)

include honest

/-- The symbols of a record are copied from its reader. -/
theorem symbolInfos_respects :
  r.symbolInfos.Respects Alike
  := by
  apply Access.respects_of_reads (symbolInfos_honest honest)
  rintro a - ⟨errors, ledger, -, -⟩
  rfl

theorem cachedSymbols_respects :
  r.cachedSymbols.Respects Alike
  := by
  apply Access.respects_of_reads (cachedSymbols_honest honest)
  rintro a - ⟨errors, ledger, -, -⟩
  rfl

theorem occurrenceInfos_respects :
  r.occurrenceInfos.Respects Alike
  := by
  apply Access.respects_of_reads (occurrenceInfos_honest honest)
  rintro a - ⟨errors, ledger, -, -⟩
  rfl

theorem close_retained :
  Retained r.close
  := by
  have hbackend : r.library.backend = Archive.backend := honest
  simp only [close, hbackend]
  exact Archive.disposeRecordReader_retained r.ref

end RecordReader

namespace Store

variable {store : Store Archive} (honest : store.library.Honest)

include honest

theorem unitNames_respects (sorted : Bool) :
  (store.unitNames sorted).Respects Alike
  := by
  apply Access.respects_of_reads (unitNames_honest honest sorted)
  rintro a - ⟨errors, ledger, -, -⟩
  rfl

/-- A unit that is opened for one use is closed again, however the use ends. -/
theorem withUnit_respects {use : UnitReader Archive → Access Archive α} (name : String)
    (huse : ∀ u : UnitReader Archive, u.library.Honest → (use u).Respects Alike) :
  (store.withUnit name use).Respects Alike
  := by
  intro a b h
  refine Access.bind_related (UnitReader.openIn_respects honest name a b h) fun u hu => ?_
  have hopened : u.library.Honest := by
    rw [UnitReader.library, UnitReader.store_of_openIn (Prod.ext hu rfl)]
    exact honest
  intro a' b' h'
  obtain ⟨hresult, hleft⟩ := huse u hopened a' b' h'
  exact ⟨hresult, UnitReader.close_retained hopened _ _ hleft⟩

/-- A unit that is refused is no unit of the user, in both archives. -/
theorem isUserUnit_respects (unit : String) :
  (store.isUserUnit unit).Respects Alike
  := by
  have hview := withUnit_respects honest unit fun u honest => UnitReader.view_respects honest
  refine Access.respects_bind (Access.respects_attempt hview) fun result => ?_
  rcases result with (e | message) | v
  · exact Access.respects_pure false
  · exact Access.respects_halt _
  · exact Access.respects_pure _

theorem unitNamesFiltered_respects (includeSystem : Bool) :
  (store.unitNamesFiltered includeSystem).Respects Alike
  := by
  refine Access.respects_bind (unitNames_respects honest false) fun names => ?_
  cases includeSystem with
  | true => exact Access.respects_pure names
  | false => exact Access.respects_filterM (isUserUnit_respects honest) names

theorem discardRecord_respects (record : String) :
  (store.discardRecord record).Respects Alike
  := by
  have hbackend : store.library.backend = Archive.backend := honest
  refine Access.respects_bind (Access.respects_terminated record) fun octets => ?_
  apply Access.respects_change
  simp only [hbackend, Archive.backend]
  exact Archive.changeContents_retained store.ref _

theorem purge_respects :
  store.purge.Respects Alike
  := by
  have hbackend : store.library.backend = Archive.backend := honest
  apply Access.respects_change
  simp only [hbackend, Archive.backend]
  exact Archive.changeContents_retained store.ref _

/-- The name of a unit is made of the path alone. -/
theorem unitName_respects (outputPath : String) :
  (store.unitName outputPath).Respects Alike
  := by
  intro a b h
  have hanswers := unitName_answers (P := fun _ => True) honest outputPath
  have hsame := unitName_within honest outputPath
  rw [(hanswers a trivial).1, (hanswers b trivial).1, ← hsame a, ← hsame b]
  exact ⟨rfl, h⟩

/-- The time of a unit is given, or the error that has been reported. -/
theorem unitTime_respects (unit : String) :
  (store.unitTime unit).Respects Alike
  := by
  have hbackend : store.library.backend = Archive.backend := honest
  refine Access.respects_bind (Access.respects_terminated unit) fun octets => ?_
  intro a b h
  obtain ⟨hfailed, htime, hreports⟩ := Archive.unitTime_reports h store.ref octets
  simp only [bind, Access.bind, Access.step, hbackend, Archive.backend, hfailed,
    hreports.isSome_eq]
  split
  · exact Library.failure_respects honest hreports _
  · rw [htime]
    exact ⟨rfl, hreports.alike⟩

end Store

namespace Options

/-- Options are created under the same reference. -/
theorem create_respects {l : Library Archive} (honest : l.Honest) :
  (create l).Respects Alike
  := by
  have hbackend : l.backend = Archive.backend := honest
  rintro a - ⟨errors, ledger, ha, hb⟩
  simp only [create, hbackend]
  exact ⟨rfl, .intro errors ledger ha hb⟩

variable {o : Options Archive} (honest : o.library.Honest)

include honest

/-- A mapping is refused for a zero in its texts only. -/
theorem add_respects (source target : String) :
  (o.add source target).Respects Alike
  := by
  have hbackend : o.library.backend = Archive.backend := honest
  refine Access.respects_bind (Access.respects_terminated source) fun sourceOctets => ?_
  refine Access.respects_bind (Access.respects_terminated target) fun targetOctets => ?_
  refine Access.respects_bind (Access.respects_change ?_) fun _ => Access.respects_pure _
  rintro a - ⟨errors, ledger, ha, hb⟩
  rw [hbackend]
  exact .intro errors ledger ha hb

theorem dispose_retained :
  Retained o.dispose
  := by
  have hbackend : o.library.backend = Archive.backend := honest
  rintro a - ⟨errors, ledger, ha, hb⟩
  rw [dispose, hbackend]
  exact .intro errors ledger ha hb

end Options

/-! ### Operations at the event desk -/

/-- The same desk beside archives that are alike. -/
def Archive.AlikeAtDesk (x y : Desk × Archive) : Prop := x.1 = y.1 ∧ x.2.Alike y.2

open Archive (AlikeAtDesk)

namespace EventStore

/-- Handlers that are called alike leave the same desk. -/
theorem calling_alike {f : Archive → List HandlerCall × Archive} (hf : Insensitive f)
    {x y : Desk × Archive} (h : AlikeAtDesk x y) :
  AlikeAtDesk (calling f x) (calling f y)
  := by
  obtain ⟨hcalls, hleft⟩ := hf x.2 y.2 h.2
  refine ⟨?_, hleft⟩
  rw [calling, calling, h.1, hcalls]

variable {e : EventStore Archive} (honest : e.store.library.Honest)

include honest

/-- A handler that is installed at the same desk has the same reference. -/
theorem install_alike (sink : Sink) {x y : Desk × Archive} (h : AlikeAtDesk x y) :
  AlikeAtDesk (e.install sink x) (e.install sink y)
  := by
  have hbackend : e.store.library.backend = Archive.backend := honest
  simp only [install, hbackend, h.1]
  exact calling_alike (Archive.withStore_insensitive _ _) ⟨rfl, h.2⟩

theorem setHandler_respects (sink : Sink) :
  (e.setHandler sink).Respects AlikeAtDesk
  := by
  intro x y h
  refine ⟨rfl, install_alike honest sink ⟨?_, h.2⟩⟩
  rw [h.1]

/-- The feed is the one that the store has had, or a new one for which a handler is installed. -/
theorem ownFeed_alike {x y : Desk × Archive} (h : AlikeAtDesk x y) :
  (e.ownFeed x).1 = (e.ownFeed y).1 ∧ AlikeAtDesk (e.ownFeed x).2 (e.ownFeed y).2
  := by
  rw [ownFeed, ownFeed]
  cases e.feed with
  | some f => exact ⟨rfl, h⟩
  | none =>
      simp only [h.1, true_and]
      exact install_alike honest _ ⟨rfl, h.2⟩

theorem subscribe_respects :
  e.subscribe.Respects AlikeAtDesk
  := by
  intro x y h
  obtain ⟨hfeed, hdesk, hleft⟩ := ownFeed_alike honest h
  simp only [subscribe, hfeed, hdesk, true_and]
  exact ⟨rfl, hleft⟩

theorem discardUnit_respects (unit : String) :
  (e.discardUnit unit).Respects AlikeAtDesk
  := by
  have hbackend : e.store.library.backend = Archive.backend := honest
  refine Access.respects_bind (Access.respects_terminated unit) fun octets => ?_
  apply Access.respects_change
  intro x y h
  rw [hbackend]
  exact calling_alike (Archive.discardUnit_insensitive _ octets) h

/-- Listening starts, or it ends in the error that has been reported. -/
theorem start_respects (wait : Bool) :
  (e.start wait).Respects AlikeAtDesk
  := by
  have hbackend : e.store.library.backend = Archive.backend := honest
  rintro ⟨desk, a⟩ ⟨desk', b⟩ ⟨hdesk, h⟩
  obtain rfl : desk = desk' := hdesk
  obtain ⟨hstarted, hcalls, hreports⟩ := Archive.startListening_reports h e.store.ref wait
  simp only [start, hbackend, Archive.backend, hstarted, hcalls]
  split
  · have hreleased := Library.releaseError_respects honest hreports
    refine ⟨?_, rfl, hreleased⟩
    rw [Library.releaseError_ok, Library.releaseError_ok]
  · obtain ⟨hresult, hleft⟩ := Library.failure_respects (α := Unit) honest hreports
      "store_start_unit_event_listening"
    exact ⟨hresult, rfl, hleft⟩

theorem stop_alike (x y : Desk × Archive) (h : AlikeAtDesk x y) :
  AlikeAtDesk (e.stop x) (e.stop y)
  := by
  have hbackend : e.store.library.backend = Archive.backend := honest
  rw [stop, hbackend]
  exact calling_alike (Archive.withStore_insensitive _ _) h

theorem background_alike (x y : Desk × Archive) (h : AlikeAtDesk x y) :
  AlikeAtDesk (e.background x) (e.background y)
  := by
  have hbackend : e.store.library.backend = Archive.backend := honest
  rw [background, hbackend]
  exact calling_alike (Archive.withStore_insensitive _ _) h

/-- A store that is closed leaves the same desk, whose handler has been finalized. -/
theorem close_alike (x y : Desk × Archive) (h : AlikeAtDesk x y) :
  AlikeAtDesk (e.close x) (e.close y)
  := by
  have hbackend : e.store.library.backend = Archive.backend := honest
  simp only [close, hbackend]
  obtain ⟨hdesk, hleft⟩ := calling_alike (Archive.disposeStore_insensitive e.store.ref) h
  refine ⟨?_, hleft⟩
  simp only [Archive.backend, hdesk]

end EventStore

end SymbolIndex
