import SymbolIndex.Proofs.Accounts.Scenes

/-!
# Every operation keeps the books in agreement with what is held

One lemma says what an operation on an object that is held does, whether it succeeds or fails: it
uses the directory of the object, opens or closes what it is to open or close, and leaves
everything else alone.
-/

namespace SymbolIndex

open Archive
open Scene (Uses Leads)

variable {α β : Type} {s : Scene}

/-! ### Operations on a store -/

namespace EventStore

variable {e : EventStore Archive}

/-- A handler that is installed is one more. -/
theorem install_follows (honest : e.store.library.Honest) (sink : Sink) {desk : Desk} {a : Archive}
    {d : Path} (ha : a.Sound desk.handlers.next) (hopen : a.rolls.Has .store e.store.ref d) :
  Follows (e.install sink (desk, a)).1.handlers.next ⟨d, true⟩ a.rolls a (e.install sink (desk, a)).2
  := by
  have hbackend : e.store.library.backend = Archive.backend := honest
  obtain ⟨x, hx, rfl⟩ := store_of_has hopen
  have hnext : (e.install sink (desk, a)).1.handlers.next = desk.handlers.next + 1 := by
    simp only [install, calling, Desk.next_process]
    rfl
  rw [hnext]
  simp only [install, calling, hbackend]
  apply ha.setHandler hx

/-- A store that is put in the place of itself with another feed. -/
theorem Ready.update (he : e.Ready s) (feed : Option Nat) :
  (s.1.update { e with feed }).held = s.1.held
    ∧ (s.1.update { e with feed }).Honest
  := by
  constructor
  · funext k
    cases k
    case store =>
        simp only [Holdings.held, Holdings.update, List.map_map]
        apply List.map_congr_left
        intro e' he'
        by_cases href : e'.store.ref = e.store.ref
        · have hmem : (e.store.ref, e'.store.directory) ∈ s.2.rolls .store := by
            rw [he.sound.held, ← href]
            exact List.mem_map_of_mem (f := fun e => (e.store.ref, e.store.directory)) he'
          have hhas := he.sound.held ▸ he.held
          have hperm := perm_of_find (he.sound.archive.books.distinct .store) hhas
          have hdirectory : e'.store.directory = e.store.directory := by
            have hsame := hperm.mem_iff.mp hmem
            simpa using hsame
          simp [href, hdirectory]
        · simp [href]
    all_goals rfl
  · have honest := he.sound.honest
    refine ⟨?_, honest.records, honest.units, honest.options⟩
    intro e' he'
    obtain ⟨e₀, he₀, rfl⟩ := List.mem_map.mp he'
    split
    · exact he.honest
    · exact honest.stores e₀ he₀

end EventStore

namespace StoreDeed

variable {e : EventStore Archive}

theorem setHandler_uses (he : e.Ready s) (journal : Nat) (u : Use) :
  Uses ⟨e.store.directory, true⟩ (s.1.note u, s.2)
    ((setHandler journal).act e (s.1.note u, s.2)).2
  := by
  obtain ⟨hheld, honest⟩ := he.update none
  have hsound : s.2.Sound (s.1.desk.letGo e.feed).handlers.next := by
    rw [Desk.handlers_letGo]
    exact he.sound.archive
  have hinstall := EventStore.install_follows he.honest (.journal journal) hsound
    (he.sound.held ▸ he.held)
  rw [he.sound.held, ← hheld] at hinstall
  exact ⟨hinstall, rfl, ⟨honest.stores, honest.records, honest.units, honest.options⟩⟩

/-- The first subscriber installs a handler, and the others share it. -/
theorem subscribe_uses (he : e.Ready s) (u : Use) :
  Uses ⟨e.store.directory, e.feed.isNone⟩ (s.1.note u, s.2)
    (subscribe.act e (s.1.note u, s.2)).2
  := by
  cases hfeed : e.feed with
  | some f =>
      obtain ⟨hheld, honest⟩ := he.update (some f)
      have hquiet : Quiet s.1.desk.handlers.next e.store.directory s.2 s.2 := Quiet.refl s.2
      have hsame := hquiet he.sound.archive
      rw [he.sound.held, ← hheld] at hsame
      simp only [act_subscribe, EventStore.ownFeed, hfeed]
      exact ⟨hsame, rfl, ⟨honest.stores, honest.records, honest.units, honest.options⟩⟩
  | none =>
      let f := s.1.desk.feed.1
      let installed := e.install (.feed f) (s.1.desk.feed.2, s.2)
      obtain ⟨hheld, honest⟩ := he.update (some f)
      have hinstall : Follows installed.1.handlers.next ⟨e.store.directory, true⟩ s.2.rolls s.2
          installed.2 :=
        EventStore.install_follows he.honest _ he.sound.archive (he.sound.held ▸ he.held)
      rw [he.sound.held, ← hheld] at hinstall
      simp only [act_subscribe, EventStore.ownFeed, hfeed]
      exact ⟨hinstall, rfl, ⟨honest.stores, honest.records, honest.units, honest.options⟩⟩

/-- A store that is closed is no longer held. -/
theorem close_uses (he : e.Ready s) :
  Uses ⟨e.store.directory, false⟩ s (close.act e s).2
  := by
  have hbackend : e.store.library.backend = Archive.backend := he.honest
  obtain ⟨x, hx, hdirectory⟩ := store_of_has (he.sound.held ▸ he.held)
  have hclosed := he.sound.archive.disposeStore hx
  have hheld : (close.act e s).2.1.held = s.1.held.remove .store e.store.ref := by
    funext k
    cases k
    case store =>
        simp [act, Scene.useDesk, Access.change, Holdings.held, Rolls.remove, List.filter_map,
          Function.comp_def]
    all_goals rfl
  rw [hdirectory, he.sound.held, ← hheld] at hclosed
  have harchive : (close.act e s).2.2 = (disposeStore e.store.ref s.2).2 := by
    simp only [act, Scene.useDesk, Access.change, EventStore.close, EventStore.calling, hbackend]
    rfl
  have hnext : (close.act e s).2.1.desk.handlers.next = s.1.desk.handlers.next := by
    simp [act, Scene.useDesk, Access.change, EventStore.close, EventStore.calling]
  rw [← harchive, ← hnext] at hclosed
  have honest := he.sound.honest
  refine ⟨hclosed, rfl, ⟨?_, honest.records, honest.units, honest.options⟩⟩
  intro e' he'
  exact honest.stores e' (List.mem_of_mem_filter he')

/-- A record reader or a unit reader that has been opened is held. -/
theorem openRecord_uses (he : e.Ready s) (record : String) :
  Uses ⟨e.store.directory, false⟩ s ((openRecord record).act e s).2
  := by
  have hopen := he.sound.held ▸ he.held
  refine Scene.uses_of_opens (RecordReader.openIn_opens he.honest record hopen) he.sound ?_
  rintro r ⟨hstore, href⟩
  have honest := he.sound.honest
  refine ⟨rfl, rfl, ?_, ⟨honest.stores, ?_, honest.units, honest.options⟩⟩
  · funext k
    cases k
    case record => simp [Holdings.held, Rolls.add, hstore, href]
    all_goals rfl
  · intro r' hr'
    rcases List.mem_append.mp hr' with hr' | hr'
    · exact honest.records r' hr'
    · obtain rfl : r' = r := by simpa using hr'
      exact RecordReader.honest_of_store he.honest hstore

theorem openUnit_uses (he : e.Ready s) (unit : String) :
  Uses ⟨e.store.directory, false⟩ s ((openUnit unit).act e s).2
  := by
  have hopen := he.sound.held ▸ he.held
  refine Scene.uses_of_opens (UnitReader.openIn_opens he.honest unit hopen) he.sound ?_
  rintro u ⟨hstore, href⟩
  have honest := he.sound.honest
  refine ⟨rfl, rfl, ?_, ⟨honest.stores, honest.records, ?_, honest.options⟩⟩
  · funext k
    cases k
    case unit => simp [Holdings.held, Rolls.add, hstore, href]
    all_goals rfl
  · intro u' hu'
    rcases List.mem_append.mp hu' with hu' | hu'
    · exact honest.units u' hu'
    · obtain rfl : u' = u := by simpa using hu'
      exact UnitReader.honest_of_store he.honest hstore

theorem act_uses (he : e.Ready s) (deed : StoreDeed) :
  Uses ⟨e.store.directory, deed.installs e⟩
    (s.1.note ⟨e.store.directory, deed.installs e⟩, s.2)
    (deed.act e (s.1.note ⟨e.store.directory, deed.installs e⟩, s.2)).2
  := by
  have honest := he.honest
  have hnoted : e.Ready (s.1.note ⟨e.store.directory, false⟩, s.2) :=
    ⟨he.sound.note e.store.directory, he.mem, he.held⟩
  have hsound := hnoted.sound
  have hheld := hnoted.held
  cases deed with
  | unitNames sorted =>
      exact Scene.uses_of_calm (Store.unitNames_within honest sorted).of_eq hsound hheld
  | unitNamesFiltered includeSystem =>
      exact Scene.uses_of_calm (Store.unitNamesFiltered_within honest includeSystem) hsound hheld
  | unitName outputPath =>
      exact Scene.uses_of_calm (Store.unitName_within honest outputPath).of_eq hsound hheld
  | unitTime unit => exact Scene.uses_of_calm (Store.unitTime_within honest unit) hsound hheld
  | discardUnit unit =>
      exact Scene.uses_of_desk (EventStore.discardUnit_within honest unit) hsound hheld
  | discardRecord record =>
      exact Scene.uses_of_calm (Store.discardRecord_within honest record) hsound hheld
  | purge => exact Scene.uses_of_calm (Store.purge_within honest) hsound hheld
  | openRecord record => exact openRecord_uses hnoted record
  | openUnit unit => exact openUnit_uses hnoted unit
  | setHandler journal => exact setHandler_uses he journal _
  | subscribe => exact subscribe_uses he _
  | start wait => exact Scene.uses_of_desk (EventStore.start_within honest wait) hsound hheld
  | stop => exact Scene.uses_of_desk (EventStore.stop_within honest) hsound hheld
  | background => exact Scene.uses_of_desk (EventStore.background_within honest) hsound hheld
  | close => exact close_uses hnoted

theorem run_leads (ref : StoreRef) (deed : StoreDeed) (s : Scene) :
  Leads s (deed.run ref s).2
  := by
  rw [run]
  cases he : s.1.store? ref with
  | none => apply refl_of Leads
  | some e =>
      obtain ⟨hmem, hheld⟩ := Holdings.mem_of_store? he
      apply Scene.leads_of_uses fun hs => act_uses ⟨hs, hmem, hheld⟩ deed

end StoreDeed

/-! ### Operations on a reader -/

namespace RecordDeed

variable {r : RecordReader Archive}

/-- A reader that is closed is no longer held. -/
theorem close_uses (hs : s.Sound) (honest : r.library.Honest)
    (hheld : s.1.held.Has .record r.ref r.store.directory) :
  Uses ⟨r.store.directory, false⟩ s (close.act r s).2
  := by
  have hbackend : r.library.backend = Archive.backend := honest
  obtain ⟨x, hx, hdirectory⟩ := record_of_has (hs.held ▸ hheld)
  have hclosed := hs.archive.disposeRecordReader hx
  have hrolls : (close.act r s).2.1.held = s.1.held.remove .record r.ref := by
    funext k
    cases k
    case record =>
        simp [act, Scene.use, Access.change, Holdings.held, Rolls.remove, List.filter_map,
          Function.comp_def]
    all_goals rfl
  have harchive : (close.act r s).2.2 = disposeRecordReader r.ref s.2 := by
    simp only [act, Scene.use, Access.change, RecordReader.close, hbackend]
    rfl
  rw [hdirectory, hs.held, ← hrolls, ← harchive] at hclosed
  refine ⟨hclosed, rfl, ⟨hs.honest.stores, ?_, hs.honest.units, hs.honest.options⟩⟩
  intro r' hr'
  exact hs.honest.records r' (List.mem_of_mem_filter hr')

theorem run_leads (ref : RecordRef) (deed : RecordDeed) (s : Scene) :
  Leads s (deed.run ref s).2
  := by
  rw [run]
  cases hr : s.1.record? ref with
  | none => apply refl_of Leads
  | some r =>
      obtain ⟨hmem, hheld⟩ := Holdings.mem_of_record? hr
      refine Scene.leads_of_uses (u := ⟨r.store.directory, false⟩) fun hs => ?_
      have honest := hs.honest.records r hmem
      have hsound := hs.note r.store.directory
      cases deed with
      | symbolInfos =>
          exact Scene.uses_of_calm (RecordReader.symbolInfos_within honest).of_eq hsound hheld
      | cachedSymbols =>
          exact Scene.uses_of_calm (RecordReader.cachedSymbols_within honest).of_eq hsound hheld
      | occurrenceInfos =>
          exact Scene.uses_of_calm (RecordReader.occurrenceInfos_within honest).of_eq hsound hheld
      | close => exact close_uses hsound honest hheld

end RecordDeed

namespace UnitDeed

variable {u : UnitReader Archive}

/-- A reader that is closed is no longer held. -/
theorem close_uses (hs : s.Sound) (honest : u.library.Honest)
    (hheld : s.1.held.Has .unit u.ref u.store.directory) :
  Uses ⟨u.store.directory, false⟩ s (close.act u s).2
  := by
  have hbackend : u.library.backend = Archive.backend := honest
  obtain ⟨x, hx, hdirectory⟩ := unit_of_has (hs.held ▸ hheld)
  have hclosed := hs.archive.disposeUnitReader hx
  have hrolls : (close.act u s).2.1.held = s.1.held.remove .unit u.ref := by
    funext k
    cases k
    case unit =>
        simp [act, Scene.use, Access.change, Holdings.held, Rolls.remove, List.filter_map,
          Function.comp_def]
    all_goals rfl
  have harchive : (close.act u s).2.2 = disposeUnitReader u.ref s.2 := by
    simp only [act, Scene.use, Access.change, UnitReader.close, hbackend]
    rfl
  rw [hdirectory, hs.held, ← hrolls, ← harchive] at hclosed
  refine ⟨hclosed, rfl, ⟨hs.honest.stores, hs.honest.records, ?_, hs.honest.options⟩⟩
  intro u' hu'
  exact hs.honest.units u' (List.mem_of_mem_filter hu')

theorem run_leads (ref : UnitRef) (deed : UnitDeed) (s : Scene) :
  Leads s (deed.run ref s).2
  := by
  rw [run]
  cases hu : s.1.unit? ref with
  | none => apply refl_of Leads
  | some u =>
      obtain ⟨hmem, hheld⟩ := Holdings.mem_of_unit? hu
      refine Scene.leads_of_uses (u := ⟨u.store.directory, false⟩) fun hs => ?_
      have honest := hs.honest.units u hmem
      have hsound := hs.note u.store.directory
      cases deed with
      | view => exact Scene.uses_of_calm u.view_within.of_eq hsound hheld
      | info => exact Scene.uses_of_calm (UnitReader.info_within honest).of_eq hsound hheld
      | dependencyInfos =>
          exact Scene.uses_of_calm (UnitReader.dependencyInfos_within honest).of_eq hsound hheld
      | includeInfos =>
          exact Scene.uses_of_calm (UnitReader.includeInfos_within honest).of_eq hsound hheld
      | close => exact close_uses hsound honest hheld

end UnitDeed

/-! ### Operations outside the books -/

namespace Scene

/-- A use of something that is outside the books. -/
theorem leads_of_outside {s' : Scene} (h : s.Sound →
    s'.1.held = s.1.held ∧ s'.1.uses = s.1.uses
      ∧ s'.1.desk.handlers.next = s.1.desk.handlers.next ∧ s'.1.Honest
      ∧ (∀ n d, Quiet n d s.2 s'.2) ∧ s'.2.ledger = s.2.ledger) :
  Leads s s'
  := by
  intro hs
  obtain ⟨hheld, huses, hnext, honest, hquiet, hledger⟩ := h hs
  have hfollows := hquiet _ [] hs.archive
  constructor
  · constructor
    · rw [hnext]
      exact hfollows.sound
    · rw [hfollows.rolls, hs.held, hheld]
    · intro d
      rw [hfollows.handlers, hs.handlers, huses]
      simp
    · exact honest
  · use []
    simp [huses, hledger]

/-- Looking at the archive. -/
theorem leads_of_look {m : Access Archive α} (hm : m.Within Eq) (s : Scene) :
  Leads s (Scene.use m (fun _ h => h) s).2
  := by
  have hstate : (Scene.use m (fun _ h => h) s).2 = s := by
    have hsame := hm s.2
    rw [use]
    rcases hx : m s.2 with ⟨e | x, a⟩
    all_goals
      rw [hx] at hsame
      exact congrArg (Prod.mk s.1) hsame.symm
  rw [hstate]
  apply refl_of Leads

end Scene

theorem DeskDeed.next_act (d : Desk) (deed : DeskDeed) :
  (deed.act d).handlers.next = d.handlers.next
  := by
  cases deed <;> rfl

theorem ItemDeed.run_leads {l : Library Archive} (honest : l.Honest) (deed : ItemDeed) (s : Scene) :
  Leads s (deed.run l s).2
  := by
  have hbackend : l.backend = Archive.backend := honest
  cases deed with
  | occurrenceSymbol v => exact Scene.leads_of_look (Library.occurrenceSymbol_within honest v) s
  | occurrenceInfo v => exact Scene.leads_of_look (Library.occurrenceInfo_within honest v) s
  | relationSymbol v => exact Scene.leads_of_look (Library.relationSymbol_within honest v) s
  | relationInfo v => exact Scene.leads_of_look (Library.relationInfo_within honest v) s

/-- Opening a store uses its directory, however it ends. -/
theorem Deed.openStore_leads (l : Library Archive) (path : String) (options : Option OptionsRef)
    (s : Scene) :
  Leads s ((openStore l path options).run s).2
  := by
  apply Scene.leads_of_uses (u := ⟨Path.ofText path, false⟩)
  intro hs
  have honest := l.withArchive_honest l.convention
  refine Scene.uses_of_opens (Store.openAt_opens honest path _) (hs.note _) ?_
  rintro store ⟨hlibrary, href, hpath⟩
  refine ⟨rfl, rfl, ?_, ⟨?_, hs.honest.records, hs.honest.units, hs.honest.options⟩⟩
  · funext k
    cases k
    case store =>
        simp [Holdings.note, Holdings.held, Rolls.add, Store.directory, href, hpath]
    all_goals rfl
  · intro e he
    rcases List.mem_append.mp he with he | he
    · exact hs.honest.stores e he
    · obtain rfl : e = { store } := by simpa using he
      rw [hlibrary]
      exact honest

/-- Options are outside the books. -/
theorem Deed.createOptions_leads (l : Library Archive) (s : Scene) :
  Leads s ((createOptions l).run s).2
  := by
  apply Scene.leads_of_outside
  intro hs
  refine ⟨rfl, rfl, rfl, ⟨hs.honest.stores, hs.honest.records, hs.honest.units, ?_⟩, ?_, rfl⟩
  · intro o ho
    rcases List.mem_append.mp ho with ho | ho
    · exact hs.honest.options o ho
    · obtain rfl := List.mem_singleton.mp ho
      apply l.withArchive_honest
  · intro n d
    exact quiet_options s.2 _

theorem Deed.addMapping_leads (options : OptionsRef) (source target : String) (s : Scene) :
  Leads s ((addMapping options source target).run s).2
  := by
  simp only [run]
  cases ho : s.1.option? options with
  | none => apply refl_of Leads
  | some o =>
      cases hsource : Text.terminated? source with
      | none =>
          simp only [Options.add, Access.terminated, hsource]
          exact refl_of Leads s
      | some sourceOctets =>
          cases htarget : Text.terminated? target with
          | none =>
              simp only [Options.add, Access.terminated, hsource, htarget]
              exact refl_of Leads s
          | some targetOctets =>
              apply Scene.leads_of_outside
              intro hs
              have honest := hs.honest.option ho
              have hbackend : o.library.backend = Archive.backend := honest
              simp only [Options.add, Access.terminated, hsource, htarget, hbackend]
              refine ⟨rfl, rfl, rfl, ⟨hs.honest.stores, hs.honest.records, hs.honest.units, ?_⟩,
                ?_, rfl⟩
              · intro o' ho'
                obtain ⟨o₀, ho₀, rfl⟩ := List.mem_map.mp ho'
                split
                · exact honest
                · exact hs.honest.options o₀ ho₀
              · intro n d
                exact quiet_options s.2 _

theorem Deed.disposeOptions_leads (options : OptionsRef) (s : Scene) :
  Leads s ((disposeOptions options).run s).2
  := by
  simp only [run]
  cases ho : s.1.option? options with
  | none => apply refl_of Leads
  | some o =>
      apply Scene.leads_of_outside
      intro hs
      have hbackend : o.library.backend = Archive.backend := hs.honest.option ho
      refine ⟨rfl, rfl, rfl, ⟨hs.honest.stores, hs.honest.records, hs.honest.units, ?_⟩, ?_, ?_⟩
      · intro o' ho'
        exact hs.honest.options o' (List.mem_of_mem_filter ho')
      · intro n d
        simp only [Scene.use, Access.change, Options.dispose, hbackend]
        exact quiet_options s.2 _
      · simp only [Scene.use, Access.change, Options.dispose, hbackend]
        rfl

/-- Every operation keeps the books in agreement with what is held. -/
theorem Deed.run_leads (deed : Deed) (s : Scene) :
  Leads s (deed.run s).2
  := by
  cases deed with
  | changeDisk f =>
      apply Scene.leads_of_outside
      intro hs
      refine ⟨rfl, rfl, rfl, hs.honest, ?_, rfl⟩
      intro n d
      exact quiet_disk s.2 _
  | onDesk deed =>
      apply Scene.leads_of_outside
      intro hs
      refine ⟨rfl, rfl, deed.next_act s.1.desk, ?_, ?_, rfl⟩
      · exact ⟨hs.honest.stores, hs.honest.records, hs.honest.units, hs.honest.options⟩
      · intro n d
        apply Quiet.refl
  | createOptions l => exact createOptions_leads l s
  | addMapping options source target => exact addMapping_leads options source target s
  | disposeOptions options => exact disposeOptions_leads options s
  | openStore l path options => exact openStore_leads l path options s
  | onStore store deed => exact deed.run_leads store s
  | onRecord record deed => exact deed.run_leads record s
  | onUnit unit deed => exact deed.run_leads unit s
  | onItem l deed => exact ItemDeed.run_leads (l.withArchive_honest l.convention) deed s

end SymbolIndex
