import SymbolIndex.Proofs.Isolation.Documents
import SymbolIndex.Proofs.Isolation.Shown

/-!
# Stores and readers as snapshots

A store that is opened is answered for by what is on the disk and what its options say at that
moment, and then by what is done with it. A reader is answered for by what its store holds when the
reader is opened. Whatever else is done in between makes no difference, in the same directory or in
another one. On the disk is what has been written last.
-/

namespace SymbolIndex

namespace Scene

variable {s : Scene} {ref : StoreRef} {names : List HandlerRef} {handle : Option Handle}

/-! ### Answers of stores -/

/-- Everything that is asked of a store is answered as can be said of a handle, and so its handlers
are told what can be said of it. Nothing is asked of a store that has been closed. -/
structure Follows (s : Scene) (ref : StoreRef) (names : List HandlerRef)
    (handle : Option Handle) : Prop where
  ends : ∀ deed, ((Deed.onStore ref deed).given s).map Given.response?
    = handle.elim (.ok (some .done)) fun h => h.ends deed
  /-- Handlers are named in the order in which the store has been given them. -/
  tells : ∀ deed, (HandlerCall.told ((Deed.onStore ref deed).calls ref s)).map (Prod.map some id)
    = (handle.elim [] fun h => h.tells deed).map (Prod.map (names[·]?) id)
  units : ∀ sorted, (Reading.units ref sorted).play? s = handle.map fun h =>
    .ok (.each (if sorted then h.contents.sortedUnitNames else h.contents.unitNames))
  held : (s.1.store? ref).isSome = handle.isSome
  /-- Readers are opened on what the handle holds. -/
  holds : ∀ h, handle = some h → ∃ x, s.2.stores.get? ref = some x
    ∧ x.mappings = h.mappings ∧ x.contents = h.contents

/-- A store is answered for by its handle. -/
theorem Bears.follows (h : s.Bears ref names handle) (hs : s.Sound) :
  s.Follows ref names handle
  := by
  cases handle with
  | none =>
      obtain ⟨-, hnone⟩ := h
      constructor
      · intro deed
        simp only [Deed.given, hnone]
        rfl
      · intro deed
        simp [Deed.calls, Deed.at?, hnone, HandlerCall.told]
      · intro sorted
        rw [Reading.play?, Reading.listing?, hnone]
        rfl
      · rw [hnone]
        rfl
      · intro handle hhandle
        cases hhandle
  | some handle =>
      obtain ⟨e, x, he, hx, hd⟩ := h
      obtain ⟨rfl, -, honest, -⟩ := hs.store_held he
      constructor
      · intro deed
        simp only [Deed.given, he]
        exact hd.given_eq honest hs.archive hx deed
      · intro deed
        rw [Deed.calls_onStore he]
        exact hd.calls_eq honest hs.archive hx deed
      · intro sorted
        rw [Reading.play?_eq _ hs, Reading.listing?, he, Reading.items, Archive.unitNamesOf, hx,
          Option.map_some (a := handle), ← hd.contents]
        rfl
      · rw [he]
        rfl
      · rintro _ ⟨rfl⟩
        exact ⟨x, hx, hd.mappings, hd.contents⟩

theorem bears_opened (hs : s.Sound) {l : Library Archive} {path : String}
    {options : Option OptionsRef} (contents : StoreContents) :
  (s.opened l path options contents).Bears s.2.stores.next []
    (some { mappings := s.mappings options, contents })
  := ⟨_, _, store?_opened hs contents, get?_opened hs contents,
    { mappings := rfl, contents := rfl, given := rfl, handler := rfl, fed := rfl, listening := rfl,
      pending := rfl }⟩

/-! ### Isolation -/

/-- The stores and readers that can be opened go by what they are opened on, and by what is done
with them. -/
structure Isolated (s : Scene) : Prop where
  stores : ∀ l path options, ((Deed.openStore l path options).run s).1 = .ok () →
    ∃ contents, s.2.disk.readStore path = .ok contents ∧ ∀ calls,
      let s' := ((Deed.openStore l path options).run s).2
      let ref := s.2.stores.next
      (s'.called calls).Follows ref (Scene.names ref calls s')
        (Handle.afterAll (some { mappings := s.mappings options, contents }) (doneWith ref calls))
  records : ∀ ref e name, s.1.store? ref = some e → s.Succeeds ref (.openRecord name) →
    ∃ x entry, s.2.stores.get? ref = some x ∧ x.contents.openRecord name = .ok entry ∧ ∀ calls,
      let r : RecordReader Archive := ⟨e.store, s.2.records.next, name⟩
      .deed (.onRecord r.ref .close) ∉ calls →
        ((s.after ref (.openRecord name)).called calls).ReadsRecord r entry
  units : ∀ ref e name, s.1.store? ref = some e → s.Succeeds ref (.openUnit name) →
    ∃ x entry, s.2.stores.get? ref = some x ∧ x.contents.openUnit name = .ok entry ∧ ∀ calls,
      let u : UnitReader Archive := ⟨e.store, s.2.units.next, name⟩
      .deed (.onUnit u.ref .close) ∉ calls →
        ((s.after ref (.openUnit name)).called calls).ReadsUnit u (remap x.mappings) entry
  items : ∀ l deed, (Deed.onItem l deed).given s = .ok deed.shown
  relations : ∀ l v, (Reading.relations l v).play? s = some (.ok (.each v.relations))

theorem called_sound (hs : s.Sound) (calls : List Call) :
  (s.called calls).Sound
  := by
  induction calls generalizing s with
  | nil => exact hs
  | cons c calls ih => exact ih (c.run_sound hs)

theorem Sound.isolated (hs : s.Sound) :
  s.Isolated
  where
  stores l path options hok := by
    obtain ⟨haccepts, hzero, contents, hread⟩ := Deed.of_run_openStore hok
    refine ⟨contents, hread, fun calls => ?_⟩
    have hs' := ((Deed.openStore l path options).run_leads s hs).1
    have hopened := Deed.run_openStore_of haccepts hzero hread
    rw [hopened] at hs' ⊢
    exact ((bears_opened hs contents).called hs' calls).follows (called_sound hs' calls)
  records ref e name he hok := by
    obtain ⟨rfl, -, -, x, hx⟩ := hs.store_held he
    obtain ⟨entry, hentry, hhas⟩ := hasRecord_opened hs he hx hok
    have hs' := ((Deed.onStore e.store.ref (.openRecord name)).run_leads s hs).1
    exact ⟨x, entry, hx, hentry, fun calls hclose =>
      (hhas.called hs' hclose).reads (called_sound hs' calls)⟩
  units ref e name he hok := by
    obtain ⟨rfl, -, -, x, hx⟩ := hs.store_held he
    obtain ⟨entry, hentry, hhas⟩ := hasUnit_opened hs he hx hok
    have hs' := ((Deed.onStore e.store.ref (.openUnit name)).run_leads s hs).1
    exact ⟨x, entry, hx, hentry, fun calls hclose =>
      (hhas.called hs' hclose).reads (called_sound hs' calls)⟩
  items l deed := given_onItem l deed s
  relations l v := rfl

/-- After any calls stores and readers are isolated from each other, and as long as the disk is not
changed from outside its documents are as they have been written last. Whatever a client does, in
its traversals or apart from them, it goes on by calls. -/
theorem snapshots_isolated (disk : Disk) (calls : List Call) :
  ((start disk).called calls).Isolated
    ∧ ((∀ f, .deed (.changeDisk f) ∉ calls) →
      ((start disk).called calls).Documented disk (writes calls (start disk)))
  := by
  have hs := start_sound disk
  refine ⟨(called_sound hs calls).isolated, fun hdisk => ?_⟩
  exact (Documented.start disk).called hs hdisk

/-- A store with one unit is opened twice. The unit is discarded through the first store and is not
on the disk any more, but the second store has it still. A reader that is opened in the second store
shows it after it has been discarded there too. -/
theorem snapshots_isolated_discarded :
  let unit : UnitEntry := { name := "a" }
  let disk : Disk := .holding "stores" (some ({ units := [unit] } : StoreContents).document)
  let opening : Call := .deed (.openStore (.ofArchive .closure) "stores" none)
  let s := (start disk).called [opening, opening, .deed (.onStore 0 (.discardUnit "a"))]
  let reader := s.2.units.next
  let s' := (s.after 1 (.openUnit "a")).called [.deed (.onStore 1 (.discardUnit "a"))]
  ((Deed.onStore 1 (.unitNames false)).given s).map Given.response? = .ok (some (.names ["a"]))
    ∧ s.2.disk.readStore "stores" = .ok {}
    ∧ (Deed.onUnit reader .info).given s' = .ok (.response (.unit (unit.info (remap []))))
  := by
  intro unit disk opening s reader s'
  have hread : disk.readStore "stores" = .ok { units := [unit] } :=
    Disk.readStore_holding (StoreContents.ofDocument?_document _)
  have hfirst := Deed.run_openStore (s := start disk) (l := .ofArchive .closure)
    Text.terminated?_stores hread
  have hdisk : ((start disk).called [opening]).2.disk = disk := by
    simp only [called, List.foldl_cons, List.foldl_nil, opening, Call.run, hfirst]
    rfl
  have hnext : ((start disk).called [opening]).2.stores.next = 1 := by
    simp only [called, List.foldl_cons, List.foldl_nil, opening, Call.run, hfirst]
    rfl
  have hsecond := Deed.run_openStore (s := (start disk).called [opening])
    (l := .ofArchive .closure) Text.terminated?_stores (hdisk ▸ hread)
  have hfollows : s.Follows 1 [] (some { mappings := [], contents := { units := [unit] } }) := by
    obtain ⟨⟨hstores, -⟩, -⟩ := snapshots_isolated disk [opening]
    obtain ⟨contents, hread', hfollows⟩ := hstores (.ofArchive .closure) "stores" none
      (congrArg Prod.fst hsecond)
    obtain rfl : { units := [unit] } = contents :=
      Except.ok.inj ((hdisk ▸ hread).symm.trans hread')
    rw [hnext] at hfollows
    exact hfollows [.deed (.onStore 0 (.discardUnit "a"))]
  obtain ⟨⟨-, -, hunits, -⟩, hdocumented⟩ :=
    snapshots_isolated disk [opening, opening, .deed (.onStore 0 (.discardUnit "a"))]
  refine ⟨hfollows.ends (.unitNames false), ?_, ?_⟩
  · have hwrite : (Call.deed (.onStore 0 (.discardUnit "a"))).write?
        (opening.run ((start disk).called [opening])) = some ⟨0, "stores", {}⟩ := by
      simp only [opening, Call.run, hsecond]
      simp only [called, List.foldl_cons, List.foldl_nil, Call.run, hfirst]
      rfl
    have hwrites : writes [opening, opening, .deed (.onStore 0 (.discardUnit "a"))] (start disk)
        = [⟨0, "stores", {}⟩] :=
      congrArg (fun w => w.toList ++ []) hwrite
    have hwritten : disk.written? [⟨0, "stores", {}⟩] "stores" = some ⟨0, "stores", {}⟩ := by
      have hshares : disk.Shares "stores" "stores" := rfl
      rw [← List.nil_append [_], disk.written?_concat, if_pos hshares]
    have hdocument := (hdocumented (fun f => by simp [opening])).read "stores"
    rw [hwrites, hwritten] at hdocument
    exact hdocument
  · obtain ⟨e, he⟩ := Option.isSome_iff_exists.mp hfollows.held
    have hok : s.Succeeds 1 (.openUnit "a") := by
      have hends := hfollows.ends (.openUnit "a")
      rw [Succeeds, Deed.run_fst]
      cases hgiven : (Deed.onStore 1 (.openUnit "a")).given s with
      | ok given => rfl
      | error halt =>
          rw [hgiven] at hends
          cases hends
    obtain ⟨x, entry, hx, hentry, hreads⟩ := hunits 1 e "a" he hok
    obtain ⟨x', hx', hmappings, hcontents⟩ := hfollows.holds _ rfl
    obtain rfl := Option.some.inj (hx.symm.trans hx')
    rw [hcontents] at hentry
    obtain rfl : unit = entry := Except.ok.inj hentry
    have hinfo := (hreads [.deed (.onStore 1 (.discardUnit "a"))] (by simp)).given .info
    rw [hmappings] at hinfo
    exact hinfo

end Scene

end SymbolIndex
