import SymbolIndex.Proofs.Durability.Requests
import SymbolIndex.Proofs.Durability.Stored
import SymbolIndex.Proofs.Events.Replay

/-!
# Stores that are closed and opened again

What a client does through an open store is on the disk when it is done. So it can close the store
at any moment and open it again: the store that it has then answers everything as the one before
would have answered it.
-/

namespace SymbolIndex

open Archive (Presents Stored)

variable {β : Type} {s s' : Scene} {l : Library Archive} {path : String}
  {options : Option OptionsRef} {ref : StoreRef} {mappings : List (String × String)}

/-! ### Open stores -/

theorem Archive.Sound.presents {handedOut : Nat} {a : Archive} (ha : a.Sound handedOut)
    {x : ArchiveStore} (hx : a.stores.get? ref = some x) :
  a.Presents ref x.mappings x.contents
  := by
  refine ⟨⟨x, hx, rfl, rfl⟩, ha.errorTable, ?_, ?_⟩
  · exact Table.sound_of_roll (ha.books.fresh .record) (ha.books.distinct .record)
  · exact Table.sound_of_roll (ha.books.fresh .unit) (ha.books.distinct .unit)

namespace Scene

/-- The references of what is held have been handed out. -/
theorem Sound.held_lt (hs : s.Sound) (k : ObjectKind) {e : Nat × Path} (he : e ∈ s.1.held k) :
  e.1 < s.2.books.next k
  := by
  rw [← hs.held] at he
  exact hs.archive.books.fresh k e he

theorem Sound.store_lt (hs : s.Sound) {e : EventStore Archive} (he : e ∈ s.1.stores) :
  e.store.ref < s.2.stores.next
  := hs.held_lt .store (List.mem_map_of_mem he)

/-- What has a reference that is later than those of the others is found under it. -/
theorem find?_appended {α : Type} (ref? : α → Nat) {l : List α} (a : α)
    (hlt : ∀ b ∈ l, ref? b < ref? a) :
  (l ++ [a]).find? (fun b => ref? b == ref? a) = some a
  := by
  have hnone : l.find? (fun b => ref? b == ref? a) = none := by
    rw [List.find?_eq_none]
    intro b hb
    simpa using Nat.ne_of_lt (hlt b hb)
  rw [List.find?_append, hnone, Option.none_or, List.find?_singleton, beq_self_eq_true, if_pos rfl]

/-- A store that has been opened is held under the reference that is next. -/
theorem store?_opened (hs : s.Sound) (contents : StoreContents) :
  (s.opened l path options contents).1.store? s.2.stores.next
    = some { store := ⟨l.withArchive l.convention, s.2.stores.next, path⟩ }
  := find?_appended (fun e : EventStore Archive => e.store.ref)
    { store := ⟨l.withArchive l.convention, s.2.stores.next, path⟩ } fun _ he => hs.store_lt he

theorem get?_opened (hs : s.Sound) (contents : StoreContents) :
  (s.opened l path options contents).2.stores.get? s.2.stores.next
    = some { path, mappings := s.mappings options, contents }
  := hs.archive.storeTable.get?_insert _

theorem stored_opened (hs : s.Sound) {contents : StoreContents}
    (hread : s.2.disk.readStore path = .ok contents) :
  (s.opened l path options contents).2.Stored s.2.stores.next path (s.mappings options)
  := by
  refine ⟨Nat.lt_succ_self _, ?_⟩
  intro x hx
  rw [get?_opened hs contents] at hx
  obtain rfl := Option.some.inj hx
  exact ⟨rfl, rfl, hread⟩

/-! ### Closing -/

/-- To close a store leaves the disk and the options as they are. -/
structure Closes (s s' : Scene) : Prop where
  disk : s'.2.disk = s.2.disk
  held : s'.1.options = s.1.options
  options : s'.2.options = s.2.options
  next : s'.2.stores.next = s.2.stores.next

theorem closes_after (hs : s.Sound) {e : EventStore Archive} (he : s.1.store? ref = some e) :
  s.Closes (s.after ref .close)
  := by
  obtain ⟨rfl, -, honest, x, hx⟩ := hs.store_held he
  have hbackend : e.store.library.backend = Archive.backend := honest
  have hdispose : (Archive.disposeStore e.store.ref s.2).2.disk = s.2.disk
      ∧ (Archive.disposeStore e.store.ref s.2).2.options = s.2.options
      ∧ (Archive.disposeStore e.store.ref s.2).2.stores.next = s.2.stores.next := by
    simp only [Archive.disposeStore, hx]
    exact ⟨rfl, rfl, rfl⟩
  rw [after, Deed.run_onStore he]
  simp only [StoreDeed.act, useDesk, Access.change, EventStore.close, EventStore.calling, hbackend]
  exact ⟨hdispose.1, rfl, hdispose.2.1, hdispose.2.2⟩

namespace Closes

variable (h : s.Closes s')

include h

theorem option?_eq :
  s'.1.option? = s.1.option?
  := by
  funext o
  simp only [Holdings.option?, h.held]

theorem accepts (haccepts : s.Accepts l options) :
  s'.Accepts l options
  := by
  rw [Accepts, h.option?_eq]
  exact haccepts

theorem mappings_eq :
  s'.mappings options = s.mappings options
  := by
  rw [mappings, mappings, h.option?_eq, h.options]

end Closes

/-! ### Opening again -/

/-- A store that is kept on the disk. -/
structure Endures (s : Scene) (ref : StoreRef) (path : String)
    (mappings : List (String × String)) : Prop where
  /-- The document is read as what the store holds, and the store answers as it says. -/
  document : ∀ e, s.1.store? ref = some e → ∃ x, s.2.stores.get? ref = some x
    ∧ s.2.disk.readStore path = .ok x.contents
    ∧ ∀ qs, e.answers qs (s.1.desk, s.2) = x.contents.answers mappings qs
  /-- The store can be closed and opened again, and then answers as it would have. -/
  reopened : ∀ e, s.1.store? ref = some e → ∀ l options, s.Accepts l options →
    s.mappings options = mappings →
      ∃ e' s', (Deed.openStore l path options).run (s.after ref .close) = (.ok (), s')
        ∧ s'.1.store? s.2.stores.next = some e'
        ∧ ∀ qs, e'.answers qs (s'.1.desk, s'.2) = e.answers qs (s.1.desk, s.2)

theorem endures_of_stored (hs : s.Sound) (hzero : '\x00' ∉ path.toList)
    (h : s.2.Stored ref path mappings) :
  s.Endures ref path mappings
  := by
  constructor
  · intro e he
    obtain ⟨rfl, -, honest, x, hx⟩ := hs.store_held he
    obtain ⟨-, rfl, hread⟩ := h.kept x hx
    exact ⟨x, hx, hread, fun qs => EventStore.answers_eq honest qs (hs.archive.presents hx)⟩
  · intro e he l options haccepts hmappings
    obtain ⟨href, -, honest, x, hx⟩ := hs.store_held he
    obtain ⟨-, rfl, hread⟩ := h.kept x hx
    let closed : Scene := s.after ref .close
    have hcloses : s.Closes closed := closes_after hs he
    have hclosed : closed.Sound := ((Deed.onStore ref .close).run_leads s hs).1
    have hread' : closed.2.disk.readStore path = .ok x.contents := by
      rw [hcloses.disk]
      exact hread
    have hrun := Deed.run_openStore_of (hcloses.accepts haccepts) hzero hread'
    have hopened : (closed.opened l path options x.contents).Sound := by
      have hsound := ((Deed.openStore l path options).run_leads closed hclosed).1
      rwa [hrun] at hsound
    refine ⟨{ store := ⟨l.withArchive l.convention, closed.2.stores.next, path⟩ },
      closed.opened l path options x.contents, hrun, ?_, ?_⟩
    · rw [← hcloses.next]
      exact store?_opened hclosed x.contents
    · intro qs
      have hpresents := hopened.archive.presents (get?_opened hclosed x.contents)
      rw [hcloses.mappings_eq, hmappings] at hpresents
      rw [EventStore.answers_eq honest qs (href ▸ hs.archive.presents hx)]
      exact EventStore.answers_eq (l.withArchive_honest l.convention) qs hpresents

/-- A store that a client opens at some point is kept on the disk from then on, whatever the client
does, as long as the disk is changed through this store alone. -/
theorem opened_endures {p : Program β} {disk : Disk} (h : p.Reaches (start disk) s)
    (hopened : ((Deed.openStore l path options).run s).1 = .ok ())
    (hgoes : ((Deed.openStore l path options).run s).2.Goes
      (fun _ => Deed.WritesThrough s.2.stores.next) s') :
  s'.Endures s.2.stores.next path (s.mappings options)
  := by
  obtain ⟨hs, hattached⟩ := h.attached
  obtain ⟨haccepts, hzero, contents, hread⟩ := Deed.of_run_openStore hopened
  have hs' := ((Deed.openStore l path options).run_leads s hs).1
  have hattached' := hattached.run hs (.openStore l path options)
  have hstored : (s.opened l path options contents).2.Stored s.2.stores.next path
      (s.mappings options) := stored_opened hs hread
  rw [Deed.run_openStore_of haccepts hzero hread] at hgoes hs' hattached'
  obtain ⟨hsound, -, hkept⟩ := hgoes.stored hs' hattached' hstored
  exact endures_of_stored hsound hzero hkept

/-- A store is opened and purged. -/
theorem opened_endures_purge :
  let s : Scene := start (.holding "stores" (some StoreContents.zeroDocument))
  let opened := (Deed.openStore (.ofArchive .closure) "stores" none).run s
  let purged := opened.2.after 0 .purge
  opened.1 = .ok () ∧ (purged.1.store? 0).isSome ∧ purged.Endures 0 "stores" []
  := by
  intro s opened purged
  have hopen := Deed.run_openStore (s := s) (l := .ofArchive .closure) Text.terminated?_stores
    Disk.readStore_zeroDocument
  have hopened : opened.1 = .ok () := congrArg Prod.fst hopen
  have hpurged : opened.2.Goes (fun _ => Deed.WritesThrough 0) purged :=
    .single (.deed (.inl rfl))
  refine ⟨hopened, ?_, opened_endures (.here (.answer ()) s) hopened hpurged⟩
  simp only [purged, opened, hopen]
  rfl

end Scene

end SymbolIndex
