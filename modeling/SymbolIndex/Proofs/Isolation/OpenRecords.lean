import SymbolIndex.Proofs.Contents.Records
import SymbolIndex.Proofs.Isolation.Snapshots

/-!
# Open records

A record that is readable can be opened in a store that is open after any calls. Its reader shows
the record whatever is done then, until it is closed.
-/

namespace SymbolIndex

variable {s : Scene}

/-- A record can be opened if it is the first one of its name, and if it is whole. -/
theorem StoreContents.openRecord_eq_ok {c : StoreContents} {name : String} {entry : RecordEntry} :
  c.openRecord name = .ok entry ↔ c.record? name = some entry ∧ entry.Whole
  := by
  rw [openRecord]
  cases c.record? name with
  | none => simp [StoreError.answer]
  | some found =>
      cases hmissing : found.missingSymbol? with
      | none =>
          have hwhole := found.missingSymbol?_eq_none.mp hmissing
          grind
      | some i =>
          have hwhole : ¬ found.Whole := by
            rw [← found.missingSymbol?_eq_none, hmissing]
            exact Option.some_ne_none i
          grind [StoreError.answer]

/-- Of a record that is not whole, the first symbol that is missed is told. -/
theorem StoreContents.openRecord_of_not_whole {c : StoreContents} {name : String}
    {entry : RecordEntry} (hentry : c.record? name = some entry) (hwhole : ¬ entry.Whole) :
  ∃ before i rest, entry.references = before ++ i :: rest ∧ (∀ j ∈ before, entry.Holds j)
    ∧ ¬ entry.Holds i
    ∧ c.openRecord name = StoreError.answer "record_reader_create"
        ("record " ++ name ++ " refers to missing symbol " ++ toString i.toNat)
  := by
  rw [← entry.missingSymbol?_eq_none] at hwhole
  obtain ⟨i, hmissing⟩ := Option.ne_none_iff_exists'.mp hwhole
  obtain ⟨hlacks, before, rest, hreferences, hbefore⟩ := entry.missingSymbol?_eq_some.mp hmissing
  refine ⟨before, i, rest, hreferences, hbefore, hlacks, ?_⟩
  rw [openRecord, hentry]
  simp only [hmissing]

/-- A reader that has been opened on a record of an open store and has not been closed since. -/
inductive RecordReader.OpenIn : RecordReader Archive → RecordEntry → Scene → Prop where
  | opened {s : Scene} {disk : Disk} {calls : List Call}
      (hreached : s = (Scene.start disk).called calls)
      {e : EventStore Archive} {x : ArchiveStore} (he : s.1.store? e.store.ref = some e)
      (hx : s.2.stores.get? e.store.ref = some x) {name : String} {entry : RecordEntry}
      (hzero : '\x00' ∉ name.toList) (hentry : x.contents.openRecord name = .ok entry) :
      OpenIn ⟨e.store, s.2.records.next, name⟩ entry (s.after e.store.ref (.openRecord name))
  | later {r : RecordReader Archive} {entry : RecordEntry} {s : Scene} (h : OpenIn r entry s)
      {c : Call} (hclose : c ≠ .deed (.onRecord r.ref .close)) : OpenIn r entry (c.run s)

namespace Scene

/-- A record that is readable is opened. -/
theorem Sound.opensRecord (hs : s.Sound) {e : EventStore Archive} {x : ArchiveStore}
    (he : s.1.store? e.store.ref = some e) (hx : s.2.stores.get? e.store.ref = some x)
    {name : String} {entry : RecordEntry} (hzero : '\x00' ∉ name.toList)
    (hentry : x.contents.openRecord name = .ok entry) :
  s.Succeeds e.store.ref (.openRecord name)
  := by
  obtain ⟨-, -, honest, -⟩ := hs.store_held he
  have hopening := RecordReader.openIn_opening honest name s.2 (hs.archive.presents hx)
  rw [Text.checked, if_neg hzero, hentry] at hopening
  obtain ⟨r, a, hopened, -⟩ := hopening
  rw [Succeeds, Deed.run_onStore he, StoreDeed.act, use, hopened]

end Scene

namespace RecordReader

variable {r : RecordReader Archive} {entry : RecordEntry}

/-- A reader that is open shows the record on which it has been opened. -/
theorem OpenIn.hasRecord (h : r.OpenIn entry s) :
  s.Sound ∧ s.HasRecord r entry
  := by
  induction h with
  | @opened s disk calls hreached e x he hx name entry hzero hentry =>
      have hs : s.Sound := hreached ▸ Scene.called_sound (Scene.start_sound disk) calls
      have hsucceeds := hs.opensRecord he hx hzero hentry
      obtain ⟨entry', hentry', hhas⟩ := Scene.hasRecord_opened hs he hx hsucceeds
      obtain rfl := Except.ok.inj (hentry.symm.trans hentry')
      exact ⟨((Deed.onStore e.store.ref (.openRecord name)).run_leads s hs).1, hhas⟩
  | later h hclose ih => exact ⟨Call.run_sound ih.1 _, ih.2.call ih.1 hclose⟩

theorem OpenIn.called (h : r.OpenIn entry s) {calls : List Call}
    (hclose : .deed (.onRecord r.ref .close) ∉ calls) :
  r.OpenIn entry (s.called calls)
  := by
  induction calls generalizing s with
  | nil => exact h
  | cons c calls ih =>
      rw [List.mem_cons, not_or] at hclose
      exact ih (h.later (Ne.symm hclose.1)) hclose.2

/-- Nothing that is done with a store closes a reader. -/
theorem OpenIn.after (h : r.OpenIn entry s) (ref : StoreRef) (deed : StoreDeed) :
  r.OpenIn entry (s.after ref deed)
  := h.later (c := .deed (.onStore ref deed)) (by simp)

/-- A record that is opened holds every symbol to which it refers. -/
theorem OpenIn.whole (h : r.OpenIn entry s) :
  entry.Whole
  := by
  induction h with
  | opened _ _ _ _ hentry => exact (StoreContents.openRecord_eq_ok.mp hentry).2
  | later _ _ ih => exact ih

theorem OpenIn.honest (h : r.OpenIn entry s) :
  r.library.Honest
  := by
  obtain ⟨hs, hhas⟩ := h.hasRecord
  exact hs.honest.record hhas.held

/-- The symbols to ask for are the symbols of the record. -/
theorem OpenIn.cachedSymbols (h : r.OpenIn entry s) :
  r.cachedSymbols s.2
    = (.ok ((entry.symbolViews r.ref).map (HeldSymbol.mk r.library.identity)), s.2)
  := by
  rw [cachedSymbols_honest h.honest, h.hasRecord.2.symbolsOf_eq]

end RecordReader

end SymbolIndex
