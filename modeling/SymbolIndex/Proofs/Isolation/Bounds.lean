import SymbolIndex.Proofs.Isolation.Courses

/-!
# What calls do to the archive

Most of what a client calls changes the archive by few operations of the library. If all of these
are within a relation that goes from each state to the later ones, then so is every call that does
not change options.
-/

namespace SymbolIndex

variable {s : Scene}

/-- What the archive does when it is asked for anything but a change of options is within a
relation. -/
structure Archive.Bounds (R : Archive → Archive → Prop) : Prop extends Reads R where
  changeDisk : ∀ (f : Disk → Disk) a, R a { a with disk := f a.disk }
  createStore : ∀ octets options a, R a (createStore octets options a).2
  disposeStore : ∀ ref a, R a (disposeStore ref a).2
  withStore : ∀ ref f a, R a (withStore ref f a).2
  startListening : ∀ ref wait a, R a (startListening ref wait a).2
  changeContents : ∀ ref f a, R a (changeContents ref f a)
  countQuery : ∀ ref selection a, R a (countQuery ref selection a)

/-- The operation is one on options. -/
def Deed.changesOptions : Deed → Bool
  | createOptions _ | addMapping .. | disposeOptions _ => true
  | _ => false

/-- The call is an operation on options. -/
def Call.changesOptions : Call → Bool
  | .deed d => d.changesOptions
  | .handOut _ | .search _ => false

open Scene (archive_use archive_useDesk)

/-- An operation on an item leaves the archive as it is. -/
theorem ItemDeed.archive_run {l : Library Archive} (honest : l.Honest) (deed : ItemDeed)
    (s : Scene) :
  (deed.run l s).2.2 = s.2
  := by
  rw [run.eq_def]
  split <;> rw [archive_use]
  · exact (Library.occurrenceSymbol_within honest _ s.2).symm
  · exact (Library.occurrenceInfo_within honest _ s.2).symm
  · exact (Library.relationSymbol_within honest _ s.2).symm
  · exact (Library.relationInfo_within honest _ s.2).symm

namespace Archive.Bounds

variable {R : Archive → Archive → Prop} [IsPreorder Archive R] (hR : Bounds R)

include hR

theorem onStore {e : EventStore Archive} {x : ArchiveStore} (honest : e.store.library.Honest)
    (hx : s.2.stores.get? e.store.ref = some x) (deed : StoreDeed) :
  R s.2 (deed.act e s).2.2
  := by
  have hbackend : e.store.library.backend = Archive.backend := honest
  cases hwrites : deed.writes with
  | true =>
      rw [StoreDeed.archive_act_of_writes honest hwrites hx]
      split
      · apply hR.changeContents
      · apply refl_of
  | false =>
      cases deed with
      | unitNames sorted =>
          rw [StoreDeed.act, archive_use]
          exact (Store.unitNames_within honest sorted).of_eq s.2
      | unitNamesFiltered includeSystem =>
          rw [StoreDeed.act, archive_use]
          exact hR.unitNamesFiltered_within honest includeSystem s.2
      | unitName outputPath =>
          rw [StoreDeed.act, archive_use]
          exact (Store.unitName_within honest outputPath).of_eq s.2
      | unitTime unit =>
          rw [StoreDeed.act, archive_use]
          exact hR.unitTime_within honest unit s.2
      | openRecord record =>
          rw [StoreDeed.act, archive_use]
          exact hR.openRecord_within honest record s.2
      | openUnit unit =>
          rw [StoreDeed.act, archive_use]
          exact hR.openUnit_within honest unit s.2
      | setHandler journal =>
          rw [StoreDeed.act, archive_useDesk]
          simp only [EventStore.setHandler, EventStore.install, EventStore.calling, hbackend]
          apply hR.withStore
      | subscribe =>
          rw [StoreDeed.act_subscribe]
          simp only [EventStore.ownFeed]
          split
          · apply refl_of
          · simp only [EventStore.install, EventStore.calling, hbackend]
            apply hR.withStore
      | start wait =>
          rw [StoreDeed.act, archive_useDesk]
          exact hR.start_within honest
            hR.startListening wait (s.1.desk, s.2)
      | stop | background =>
          simp only [StoreDeed.act, archive_useDesk, EventStore.stop, EventStore.background,
            hbackend]
          apply hR.withStore
      | close =>
          simp only [StoreDeed.act, archive_useDesk, Access.change, EventStore.close,
            EventStore.calling, hbackend]
          apply hR.disposeStore
      | discardUnit _ | discardRecord _ | purge => cases hwrites

theorem onRecord {r : RecordReader Archive} (honest : r.library.Honest)
    (deed : RecordDeed) (s : Scene) :
  R s.2 (deed.act r s).2.2
  := by
  rw [RecordDeed.act.eq_def]
  split <;> rw [archive_use]
  · exact (RecordReader.symbolInfos_within honest).of_eq s.2
  · exact (RecordReader.cachedSymbols_within honest).of_eq s.2
  · exact (RecordReader.occurrenceInfos_within honest).of_eq s.2
  · exact hR.closeRecord_within honest s.2

theorem onUnit {u : UnitReader Archive} (honest : u.library.Honest) (deed : UnitDeed)
    (s : Scene) :
  R s.2 (deed.act u s).2.2
  := by
  rw [UnitDeed.act.eq_def]
  split <;> rw [archive_use]
  · exact u.view_within.of_eq s.2
  · exact (UnitReader.info_within honest).of_eq s.2
  · exact (UnitReader.dependencyInfos_within honest).of_eq s.2
  · exact (UnitReader.includeInfos_within honest).of_eq s.2
  · exact hR.closeUnit_within honest s.2

theorem run {deed : Deed} (hs : s.Sound) (h : deed.changesOptions = false) :
  R s.2 (deed.run s).2.2
  := by
  cases deed with
  | createOptions _ | addMapping _ _ _ | disposeOptions _ => cases h
  | changeDisk f => exact hR.changeDisk f s.2
  | onDesk deed => exact refl_of R s.2
  | openStore l path options =>
      rw [Deed.run, archive_use]
      exact hR.openAt_within (l.withArchive_honest l.convention) hR.createStore path _ _
  | onStore ref deed =>
      cases he : s.1.store? ref with
      | none =>
          rw [Deed.run_onStore_of_none he]
          apply refl_of
      | some e =>
          obtain ⟨rfl, -, honest, x, hx⟩ := hs.store_held he
          rw [Deed.run_onStore he]
          exact hR.onStore (s := (s.1.note _, s.2)) honest hx deed
  | onRecord record deed =>
      simp only [Deed.run, RecordDeed.run]
      split
      · apply refl_of
      case h_2 r hr =>
          have honest := hs.honest.record hr
          exact hR.onRecord honest deed (s.1.note _, s.2)
  | onUnit unit deed =>
      simp only [Deed.run, UnitDeed.run]
      split
      · apply refl_of
      case h_2 u hu =>
          have honest := hs.honest.unit hu
          exact hR.onUnit honest deed (s.1.note _, s.2)
  | onItem l deed =>
      rw [Deed.run, deed.archive_run (l.withArchive_honest l.convention)]
      apply refl_of

theorem call {c : Call} (hs : s.Sound) (h : c.changesOptions = false) :
  R s.2 (c.run s).2
  := by
  cases c with
  | deed deed => exact hR.run hs h
  | handOut t =>
      rw [Call.run, Reading.after]
      split
      case h_1 => apply refl_of
      case h_2 => apply refl_of
      case h_3 listing h =>
          rcases t.start_cases hs h with hsame | ⟨record, r, selection, hr, -, hselect⟩
          · rw [hsame]
            apply refl_of
          · have hbackend : r.library.backend = Archive.backend := hs.honest.record hr
            rw [hselect]
            simp only [RecordReader.select, hbackend]
            apply hR.countQuery
  | search record =>
      rw [Call.run]
      split
      case h_1 => apply refl_of
      case h_2 r hr =>
          have hbackend : r.library.backend = Archive.backend := hs.honest.record hr
          rw [hbackend]
          apply refl_of

end Archive.Bounds

end SymbolIndex
