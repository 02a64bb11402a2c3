import SymbolIndex.Proofs.Accounts.Programs

/-!
# What leaves the open stores as they are

To read something through a store or a reader changes the tables of errors and readers at most.
The open stores and the disk stay as they are, and nothing happens at the event desk.
-/

namespace SymbolIndex

open Text (Octets)

variable {α : Type} {s s' : Scene}

namespace Archive

/-- The open stores stay as they are. -/
def Still (a a' : Archive) : Prop := a'.stores = a.stores

instance : IsPreorder Archive Still where
  refl _ := rfl
  trans _ _ _ h h' := h'.trans h

/-- The open stores and the disk stay as they are. -/
structure Aside (a a' : Archive) : Prop where
  stores : Still a a'
  disk : a'.disk = a.disk

instance : IsPreorder Archive Aside where
  refl _ := ⟨rfl, rfl⟩
  trans _ _ _ h h' := ⟨trans_of Still h.stores h'.stores, h'.disk.trans h.disk⟩

variable (a : Archive)

/-- An error object is disposed of in its own table. -/
theorem aside_disposeError (e : ErrorRef) :
  Aside a (disposeError e a)
  := by
  cases e with
  | own ref =>
      rw [disposeError]
      split <;> exact ⟨rfl, rfl⟩
  | injected n => exact ⟨rfl, rfl⟩

/-- A reader is created in its own table, or an error object in its place. -/
theorem aside_createRecordReader (store : StoreRef) (octets : Octets) :
  Aside a (createRecordReader store octets a).2
  := by
  simp only [createRecordReader]
  split
  · exact ⟨rfl, rfl⟩
  · split
    · exact ⟨rfl, rfl⟩
    · split <;> exact ⟨rfl, rfl⟩

theorem aside_disposeRecordReader (ref : RecordRef) :
  Aside a (disposeRecordReader ref a)
  := by
  rw [disposeRecordReader]
  split <;> exact ⟨rfl, rfl⟩

theorem aside_countQuery (ref : RecordRef) (selection : Selection) :
  Aside a (countQuery ref selection a)
  := by
  unfold countQuery
  split <;> exact ⟨rfl, rfl⟩

theorem aside_createUnitReader (store : StoreRef) (octets : Octets) :
  Aside a (createUnitReader store octets a).2
  := by
  simp only [createUnitReader]
  split
  · exact ⟨rfl, rfl⟩
  · split <;> exact ⟨rfl, rfl⟩

theorem aside_disposeUnitReader (ref : UnitRef) :
  Aside a (disposeUnitReader ref a)
  := by
  rw [disposeUnitReader]
  split <;> exact ⟨rfl, rfl⟩

/-- The time of a unit that is not there leaves an error object behind. -/
theorem aside_unitTime (ref : StoreRef) (octets : Octets) :
  Aside a (unitTime ref octets a).2
  := by
  simp only [unitTime]
  split
  · exact ⟨rfl, rfl⟩
  · split <;> exact ⟨rfl, rfl⟩

end Archive

open Archive (Aside)

/-! ### Accesses -/

/-- What the archive does when something is read through a store is within a relation. -/
structure Archive.Reads (R : Archive → Archive → Prop) : Prop where
  disposeError : ∀ e a, R a (disposeError e a)
  createRecordReader : ∀ store octets a, R a (createRecordReader store octets a).2
  disposeRecordReader : ∀ ref a, R a (disposeRecordReader ref a)
  createUnitReader : ∀ store octets a, R a (createUnitReader store octets a).2
  disposeUnitReader : ∀ ref a, R a (disposeUnitReader ref a)
  unitTime : ∀ ref octets a, R a (unitTime ref octets a).2

/-- All that reading does in the archive is done aside. -/
theorem Archive.reads_aside :
  Reads Aside
  where
  disposeError e a := a.aside_disposeError e
  createRecordReader store octets a := a.aside_createRecordReader store octets
  disposeRecordReader ref a := a.aside_disposeRecordReader ref
  createUnitReader store octets a := a.aside_createUnitReader store octets
  disposeUnitReader ref a := a.aside_disposeUnitReader ref
  unitTime ref octets a := a.aside_unitTime ref octets

/-- A reader is of the store in which it has been opened. -/
theorem UnitReader.store_of_openIn {store : Store Archive} {name : String} {a a' : Archive}
    {r : UnitReader Archive} (h : openIn store name a = (.ok r, a')) :
  r.store = store
  := by
  simp only [openIn, bind, Access.bind, Access.step, pure, Access.pure] at h
  split at h
  · split at h
    · cases h
      rfl
    · cases h
  · cases h

theorem RecordReader.store_of_openIn {store : Store Archive} {name : String} {a a' : Archive}
    {r : RecordReader Archive} (h : openIn store name a = (.ok r, a')) :
  r.store = store
  := by
  simp only [openIn, bind, Access.bind, Access.step, pure, Access.pure] at h
  split at h
  · split at h
    · cases h
      rfl
    · cases h
  · cases h

namespace Archive.Reads

variable {R : Archive → Archive → Prop} [IsPreorder Archive R] (hR : Reads R)

section

variable {l : Library Archive} (honest : l.Honest)

include hR honest

omit [IsPreorder Archive R] in
theorem takeError_within (e : ErrorRef) (a : Archive) :
  R a (l.takeError e a).2
  := by
  rw [Library.takeError_honest honest]
  apply hR.disposeError

theorem releaseError_within (e : Option ErrorRef) :
  (l.releaseError e).Within R
  := by
  cases e with
  | none => apply Access.within_pure
  | some e => exact hR.takeError_within honest e

theorem failure_within (operation : String) (e : Option ErrorRef) :
  (l.failure operation e : Access Archive α).Within R
  := by
  cases e with
  | none => apply Access.within_fail
  | some e => exact hR.takeError_within honest e

/-- What has been created is given, and an error object beside it is disposed of. -/
theorem created_within (operation : String) (answer : Created) :
  (l.created operation answer).Within R
  := by
  rcases answer with ⟨_ | ref, e⟩
  · apply hR.failure_within honest
  · apply Access.within_bind (hR.releaseError_within honest e)
    intro x
    apply Access.within_pure

/-- A store is opened within the relation if the archive makes it so. -/
theorem openAt_within (hcreate : ∀ octets options a, R a (createStore octets options a).2)
    (path : String) (options : Option (Options Archive)) :
  (Store.openAt l path options).Within R
  := by
  have hbackend : l.backend = Archive.backend := honest
  rw [Store.openAt]
  split
  · apply Access.within_fail
  · refine Access.within_bind (Access.within_terminatedPath path) ?_
    intro octets
    apply Access.within_bind
    · intro a
      rw [Access.step, hbackend]
      apply hcreate
    · intro answer
      refine Access.within_bind (hR.created_within honest _ answer) ?_
      intro ref
      apply Access.within_pure

end

/-- Listening begins within the relation if the archive begins it so. -/
theorem start_within {e : EventStore Archive} (hR : Reads R) (honest : e.store.library.Honest)
    (hstart : ∀ ref wait a, R a (startListening ref wait a).2) (wait : Bool)
    (s : Desk × Archive) :
  R s.2 (e.start wait s).2.2
  := by
  have hbackend : e.store.library.backend = Archive.backend := honest
  have hfinish : ∀ answer : ListenAnswer, Access.Within R
      (if answer.started then e.store.library.releaseError answer.error
        else e.store.library.failure "store_start_unit_event_listening" answer.error) := by
    intro answer
    split
    · exact hR.releaseError_within honest _
    · exact hR.failure_within honest _ _
  rw [EventStore.start, hbackend]
  exact trans_of R (hstart e.store.ref wait s.2) (hfinish _ _)

omit [IsPreorder Archive R] in
theorem closeUnit_within {r : UnitReader Archive} (hR : Reads R) (honest : r.library.Honest)
    (a : Archive) :
  R a (r.close a)
  := by
  have hbackend : r.library.backend = Archive.backend := honest
  rw [UnitReader.close, hbackend]
  apply hR.disposeUnitReader

omit [IsPreorder Archive R] in
theorem closeRecord_within {r : RecordReader Archive} (hR : Reads R) (honest : r.library.Honest)
    (a : Archive) :
  R a (r.close a)
  := by
  have hbackend : r.library.backend = Archive.backend := honest
  rw [RecordReader.close, hbackend]
  apply hR.disposeRecordReader

variable {store : Store Archive} (honest : store.library.Honest)

include hR honest

/-- To open a record is to read. -/
theorem openRecord_within (name : String) :
  (RecordReader.openIn store name).Within R
  := by
  have hbackend : store.library.backend = Archive.backend := honest
  refine Access.within_bind (Access.within_terminated name) ?_
  intro octets
  apply Access.within_bind
  · intro a
    rw [Access.step, hbackend]
    apply hR.createRecordReader
  · intro answer
    apply Access.within_bind (hR.created_within honest _ answer)
    intro ref
    apply Access.within_pure

theorem openUnit_within (name : String) :
  (UnitReader.openIn store name).Within R
  := by
  have hbackend : store.library.backend = Archive.backend := honest
  refine Access.within_bind (Access.within_terminated name) ?_
  intro octets
  apply Access.within_bind
  · intro a
    rw [Access.step, hbackend]
    apply hR.createUnitReader
  · intro answer
    apply Access.within_bind (hR.created_within honest _ answer)
    intro ref
    apply Access.within_pure

theorem unitTime_within (unit : String) :
  (store.unitTime unit).Within R
  := by
  have hbackend : store.library.backend = Archive.backend := honest
  refine Access.within_bind (Access.within_terminated unit) ?_
  intro octets
  apply Access.within_bind
  · intro a
    rw [Access.step, hbackend]
    apply hR.unitTime
  · intro answer
    split
    · apply hR.failure_within honest
    · apply Access.within_pure

/-- The reader of a unit is of the library of its store, however it has been opened. -/
theorem withUnit_within (name : String) {use : UnitReader Archive → Access Archive α}
    (huse : ∀ r : UnitReader Archive, r.library.Honest → (use r).Within R) :
  (store.withUnit name use).Within R
  := by
  intro a
  have hopens := hR.openUnit_within honest name a
  simp only [Store.withUnit, bind, Access.bind]
  rcases hreader : UnitReader.openIn store name a with ⟨h | r, a₁⟩
  · rw [hreader] at hopens
    exact hopens
  · rw [hreader] at hopens
    have hlibrary : r.library.Honest := by
      rw [UnitReader.library, UnitReader.store_of_openIn hreader]
      exact honest
    have hused := trans_of R hopens (huse r hlibrary a₁)
    exact trans_of R hused (hR.closeUnit_within hlibrary _)

theorem withRecord_within (name : String) {use : RecordReader Archive → Access Archive α}
    (huse : ∀ r : RecordReader Archive, r.library.Honest → (use r).Within R) :
  (store.withRecord name use).Within R
  := by
  intro a
  have hopens := hR.openRecord_within honest name a
  simp only [Store.withRecord, bind, Access.bind]
  rcases hreader : RecordReader.openIn store name a with ⟨h | r, a₁⟩
  · rw [hreader] at hopens
    exact hopens
  · rw [hreader] at hopens
    have hlibrary : r.library.Honest := by
      rw [RecordReader.library, RecordReader.store_of_openIn hreader]
      exact honest
    have hused := trans_of R hopens (huse r hlibrary a₁)
    exact trans_of R hused (hR.closeRecord_within hlibrary _)

/-- Each unit is opened, looked at and closed again. -/
theorem unitNamesFiltered_within (includeSystem : Bool) :
  (store.unitNamesFiltered includeSystem).Within R
  := by
  refine Access.within_bind (Store.unitNames_within honest false).of_eq ?_
  intro names
  split
  · apply Access.within_pure
  · apply Access.within_filterM
    intro name
    have hview : (store.withUnit name UnitReader.view).Within R :=
      hR.withUnit_within honest name fun r _ => r.view_within.of_eq
    refine Access.within_bind hview ?_
    intro result
    rcases result with (e | message) | v
    · apply Access.within_pure
    · apply refl_of
    · apply Access.within_pure

end Archive.Reads

/-! ### Operations -/

/-- The operation only reads through the store. -/
def StoreDeed.reads : StoreDeed → Bool
  | unitNames _ | unitNamesFiltered _ | unitName _ | unitTime _ | openRecord _ | openUnit _ => true
  | _ => false

/-- The operation neither opens a store nor does more with one than read, and it does nothing at
the event desk. The disk may change. -/
def Deed.Reads : Deed → Prop
  | onStore _ deed => deed.reads = true
  | onDesk _ | openStore .. => False
  | _ => True

namespace Scene

/-- Nothing happens to the open stores and at the event desk. -/
structure Still (s s' : Scene) : Prop where
  archive : Archive.Still s.2 s'.2
  stores : s'.1.stores = s.1.stores
  desk : s'.1.desk = s.1.desk
  taken : s'.1.taken = s.1.taken

instance : IsPreorder Scene Still where
  refl _ := ⟨rfl, rfl, rfl, rfl⟩
  trans _ _ _ h h' :=
    ⟨h'.archive.trans h.archive, h'.stores.trans h.stores, h'.desk.trans h.desk,
      h'.taken.trans h.taken⟩

/-- Nothing happens to the open stores, to the disk and at the event desk. -/
structure Aside (s s' : Scene) : Prop where
  archive : Archive.Aside s.2 s'.2
  stores : s'.1.stores = s.1.stores
  desk : s'.1.desk = s.1.desk
  taken : s'.1.taken = s.1.taken

/-- What happens aside happens to no open store. -/
theorem Aside.still (h : Aside s s') :
  Still s s'
  := ⟨h.archive.stores, h.stores, h.desk, h.taken⟩

instance : IsPreorder Scene Aside where
  refl s := ⟨refl_of Archive.Aside s.2, rfl, rfl, rfl⟩
  trans _ _ _ h h' :=
    ⟨trans_of Archive.Aside h.archive h'.archive, h'.stores.trans h.stores,
      h'.desk.trans h.desk, h'.taken.trans h.taken⟩

/-- Uses the archive and keeps nothing that belongs to the event desk. -/
theorem aside_use {m : Access Archive α} (hm : m.Within Archive.Aside)
    {keep : α → Holdings → Holdings}
    (hkeep : ∀ x h, (keep x h).stores = h.stores ∧ (keep x h).desk = h.desk
      ∧ (keep x h).taken = h.taken) (s : Scene) :
  Aside s (use m keep s).2
  := by
  have harchive := hm s.2
  rw [use]
  rcases hresult : m s.2 with ⟨e | x, a⟩
  all_goals rw [hresult] at harchive
  · exact ⟨harchive, rfl, rfl, rfl⟩
  · obtain ⟨hstores, hdesk, htaken⟩ := hkeep x s.1
    exact ⟨harchive, hstores, hdesk, htaken⟩

/-- Uses the archive and keeps nothing. -/
theorem aside_look {m : Access Archive α} (hm : m.Within Archive.Aside) (s : Scene) :
  Aside s (use m (fun _ h => h) s).2
  := aside_use hm (fun _ _ => ⟨rfl, rfl, rfl⟩) s

end Scene

open Scene (aside_use aside_look)

/-- A store that is only read from stays as it is. -/
theorem StoreDeed.act_aside {e : EventStore Archive} (honest : e.store.library.Honest)
    {deed : StoreDeed} (h : deed.reads = true) (s : Scene) :
  Scene.Aside s (deed.act e s).2
  := by
  cases deed with
  | unitNames sorted => exact aside_look (Store.unitNames_within honest sorted).of_eq s
  | unitNamesFiltered includeSystem =>
      exact aside_look (Archive.reads_aside.unitNamesFiltered_within honest includeSystem) s
  | unitName outputPath => exact aside_look (Store.unitName_within honest outputPath).of_eq s
  | unitTime unit => exact aside_look (Archive.reads_aside.unitTime_within honest unit) s
  | openRecord record =>
      refine aside_use (Archive.reads_aside.openRecord_within honest record) ?_ s
      exact fun _ _ => ⟨rfl, rfl, rfl⟩
  | openUnit unit =>
      refine aside_use (Archive.reads_aside.openUnit_within honest unit) ?_ s
      exact fun _ _ => ⟨rfl, rfl, rfl⟩
  | _ => cases h

/-- All that is done with a reader of a record is aside. -/
theorem RecordDeed.act_aside {r : RecordReader Archive} (honest : r.library.Honest)
    (deed : RecordDeed) (s : Scene) :
  Scene.Aside s (deed.act r s).2
  := by
  cases deed with
  | symbolInfos => exact aside_look (RecordReader.symbolInfos_within honest).of_eq s
  | cachedSymbols => exact aside_look (RecordReader.cachedSymbols_within honest).of_eq s
  | occurrenceInfos => exact aside_look (RecordReader.occurrenceInfos_within honest).of_eq s
  | close =>
      refine aside_use (Access.within_change (Archive.reads_aside.closeRecord_within honest)) ?_ s
      exact fun _ _ => ⟨rfl, rfl, rfl⟩

theorem UnitDeed.act_aside {u : UnitReader Archive} (honest : u.library.Honest) (deed : UnitDeed)
    (s : Scene) :
  Scene.Aside s (deed.act u s).2
  := by
  cases deed with
  | view => exact aside_look u.view_within.of_eq s
  | info => exact aside_look (UnitReader.info_within honest).of_eq s
  | dependencyInfos => exact aside_look (UnitReader.dependencyInfos_within honest).of_eq s
  | includeInfos => exact aside_look (UnitReader.includeInfos_within honest).of_eq s
  | close =>
      refine aside_use (Access.within_change (Archive.reads_aside.closeUnit_within honest)) ?_ s
      exact fun _ _ => ⟨rfl, rfl, rfl⟩

theorem ItemDeed.run_aside {l : Library Archive} (honest : l.Honest) (deed : ItemDeed)
    (s : Scene) :
  Scene.Aside s (deed.run l s).2
  := by
  cases deed with
  | occurrenceSymbol v => exact aside_look (Library.occurrenceSymbol_within honest v).of_eq s
  | occurrenceInfo v => exact aside_look (Library.occurrenceInfo_within honest v).of_eq s
  | relationSymbol v => exact aside_look (Library.relationSymbol_within honest v).of_eq s
  | relationInfo v => exact aside_look (Library.relationInfo_within honest v).of_eq s

/-- Whatever only reads happens aside, unless the disk is changed. -/
theorem Deed.run_aside {deed : Deed} (h : deed.Reads) (hdisk : ∀ f, deed ≠ changeDisk f)
    (hs : s.Sound) :
  Scene.Aside s (deed.run s).2
  := by
  have hnote : ∀ u, Scene.Aside s (s.1.note u, s.2) := fun _ => ⟨⟨rfl, rfl⟩, rfl, rfl, rfl⟩
  cases deed with
  | changeDisk f => exact absurd rfl (hdisk f)
  | onDesk deed => cases h
  | createOptions l => exact ⟨⟨rfl, rfl⟩, rfl, rfl, rfl⟩
  | addMapping options source target =>
      simp only [run]
      split
      · apply refl_of
      case h_2 o ho =>
          have honest := hs.honest.option ho
          have hbackend : o.library.backend = Archive.backend := honest
          refine aside_use ?_ ?_ s
          case refine_2 => exact fun _ _ => ⟨rfl, rfl, rfl⟩
          refine Access.within_bind (Access.within_terminated source) fun sourceOctets => ?_
          refine Access.within_bind (Access.within_terminated target) fun targetOctets => ?_
          refine Access.within_bind (Access.within_change fun a => ?_) fun _ => Access.within_pure _
          rw [hbackend]
          exact ⟨rfl, rfl⟩
  | disposeOptions options =>
      simp only [run]
      split
      · apply refl_of
      case h_2 o ho =>
          have honest := hs.honest.option ho
          have hbackend : o.library.backend = Archive.backend := honest
          refine aside_use (Access.within_change fun a => ?_) ?_ s
          case refine_2 => exact fun _ _ => ⟨rfl, rfl, rfl⟩
          rw [Options.dispose, hbackend]
          exact ⟨rfl, rfl⟩
  | openStore l path options => cases h
  | onStore store deed =>
      simp only [run, StoreDeed.run]
      split
      · apply refl_of
      case h_2 e he =>
          have honest := hs.honest.store he
          exact trans_of Scene.Aside (hnote _) (StoreDeed.act_aside honest h _)
  | onRecord record deed =>
      simp only [run, RecordDeed.run]
      split
      · apply refl_of
      case h_2 r hr =>
          have honest := hs.honest.record hr
          exact trans_of Scene.Aside (hnote _) (deed.act_aside honest _)
  | onUnit unit deed =>
      simp only [run, UnitDeed.run]
      split
      · apply refl_of
      case h_2 u hu =>
          have honest := hs.honest.unit hu
          exact trans_of Scene.Aside (hnote _) (deed.act_aside honest _)
  | onItem l deed => exact deed.run_aside (l.withArchive_honest l.convention) s

/-- A change of the disk is no change of an open store. -/
theorem Deed.run_still {deed : Deed} (h : deed.Reads) (hs : s.Sound) :
  Scene.Still s (deed.run s).2
  := by
  by_cases hdisk : ∃ f, deed = changeDisk f
  · obtain ⟨f, rfl⟩ := hdisk
    exact ⟨rfl, rfl, rfl, rfl⟩
  · exact (run_aside h (not_exists.mp hdisk) hs).still

/-! ### Traversals -/

namespace Reading

theorem aside_noted (t : Reading α) (s : Scene) :
  Scene.Aside s (t.begun s.1, s.2)
  := by
  rw [begun]
  split <;> exact ⟨⟨rfl, rfl⟩, rfl, rfl, rfl⟩

theorem select_aside {r : RecordReader Archive} (honest : r.library.Honest) (selection : Selection)
    (a : Archive) :
  Archive.Aside a ((r.select selection).start r.library.convention a).2
  := by
  have hbackend : r.library.backend = Archive.backend := honest
  simp only [RecordReader.select, hbackend]
  apply Archive.aside_countQuery

/-- What happens when a traversal begins only reads. -/
theorem begun_aside (t : Reading α) {listing : Listing Archive α} (hs : s.Sound)
    (h : t.listing? s.1 = some (.ok listing)) :
  Scene.Aside s (t.begun s.1, (listing.start listing.convention s.2).2)
  := by
  have hnoted := t.aside_noted s
  have hstart : Archive.Aside s.2 (listing.start listing.convention s.2).2 := by
    rcases t.start_cases hs h with hsame | ⟨record, r, selection, hr, -, hselect⟩
    · rw [hsame]
      exact ⟨rfl, rfl⟩
    · rw [hselect]
      exact select_aside (hs.honest.record hr) selection s.2
  exact ⟨hstart, hnoted.stores, hnoted.desk, hnoted.taken⟩

/-- What happens when a search begins only reads. -/
theorem searched_aside {record : RecordRef} {r : RecordReader Archive} (hs : s.Sound)
    (h : s.1.record? record = some r) :
  Scene.Aside s (s.1.note ⟨r.store.directory, false⟩,
    (r.library.backend.search r.library.convention r.ref s.2).2)
  := by
  have hbackend : r.library.backend = Archive.backend := hs.honest.record h
  rw [hbackend]
  exact ⟨⟨rfl, rfl⟩, rfl, rfl, rfl⟩

end Reading

/-- A single step of a client is an operation that is allowed, or does no more than read. -/
theorem Scene.Move.deed_or_aside {allowed : Scene → Deed → Prop} (hmove : s.Move allowed s')
    (hs : s.Sound) :
  s'.Sound ∧ ((∃ deed, allowed s deed ∧ s' = (deed.run s).2) ∨ Aside s s')
  := by
  cases hmove with
  | @deed s deed hdeed => exact ⟨(deed.run_leads s hs).1, .inl ⟨deed, hdeed, rfl⟩⟩
  | @refused _ t s e hrefused => exact ⟨(t.noted_leads hrefused hs).1, .inr (t.aside_noted s)⟩
  | @begun _ t s listing hbegun =>
      exact ⟨(t.begun_leads hbegun hs).1, .inr (t.begun_aside hs hbegun)⟩
  | searched hr => exact ⟨(Reading.searched_leads hr hs).1, .inr (Reading.searched_aside hs hr)⟩

theorem Scene.Move.deed_or_still {allowed : Scene → Deed → Prop} (hmove : s.Move allowed s')
    (hs : s.Sound) :
  s'.Sound ∧ ((∃ deed, allowed s deed ∧ s' = (deed.run s).2) ∨ Still s s')
  := by
  obtain ⟨hs', hdeed⟩ := hmove.deed_or_aside hs
  exact ⟨hs', hdeed.imp_right Aside.still⟩

end SymbolIndex
