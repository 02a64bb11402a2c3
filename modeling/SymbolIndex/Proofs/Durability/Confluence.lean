import SymbolIndex.Proofs.Durability.Removals
import SymbolIndex.Proofs.Durability.Stored
import SymbolIndex.Proofs.Events.Replay

/-!
# Discarding and purging in any order

A client removes units and records through an open store, and purges. Two clients that have
discarded the same names, and that have both purged in the end or not at all, are left with the
same contents, in the store and on the disk, whatever the order was and however often they have
said so.
-/

namespace SymbolIndex

variable {c : StoreContents} {s : Scene} {ref : StoreRef} {e : EventStore Archive}
  {x : ArchiveStore} {ds ds' : List StoreDeed}

/-! ### Single operations -/

/-- The operation writes the contents to the disk. A unit that is not there is not discarded. -/
def StoreDeed.persists (c : StoreContents) : StoreDeed → Bool
  | discardUnit unit => !decide ('\x00' ∈ unit.toList) && (c.unit? unit).isSome
  | discardRecord record => !decide ('\x00' ∈ record.toList)
  | purge => true
  | _ => false

/-- What is not written has not been changed. -/
theorem StoreContents.after_of_not_persists {deed : StoreDeed} (h : deed.persists c = false)
    (hwrites : deed.writes = true) :
  c.after deed = c
  := by
  cases deed with
  | discardUnit unit =>
      by_cases hzero : '\x00' ∈ unit.toList
      · simp only [after, StoreDeed.request?, Option.elim_some, change, if_pos hzero]
      · have hnone : c.unit? unit = none := by
          simpa [StoreDeed.persists, hzero] using h
        simp only [after, StoreDeed.request?, Option.elim_some, change, if_neg hzero]
        exact discardUnit_of_none hnone
  | discardRecord record =>
      have hzero : '\x00' ∈ record.toList := by simpa [StoreDeed.persists] using h
      simp only [after, StoreDeed.request?, Option.elim_some, change, if_pos hzero]
  | purge => cases h
  | _ => cases hwrites

theorem StoreContents.afterAll_of_not_persists (hds : ∀ deed ∈ ds, deed.writes = true)
    (h : ds.any (·.persists c) = false) :
  c.afterAll ds = c
  := by
  induction ds with
  | nil => rfl
  | cons deed ds ih =>
      rw [List.any_cons, Bool.or_eq_false_iff] at h
      have hfirst := after_of_not_persists h.1 (hds deed List.mem_cons_self)
      rw [afterAll, List.foldl_cons, hfirst]
      exact ih (fun d hd => hds d (List.mem_cons_of_mem deed hd)) h.2

/-- The disk after operations on a store at a path. The contents are written when they change. -/
def Disk.afterAll (d : Disk) (path : String) (c : StoreContents) (ds : List StoreDeed) : Disk :=
  if ds.any (·.persists c) then d.writeStore path (c.afterAll ds) else d

/-- What is written in between is written over. -/
theorem Disk.afterAll_cons (d : Disk) (path : String) {deed : StoreDeed}
    (hdeed : deed.writes = true) (hds : ∀ deed ∈ ds, deed.writes = true) :
  (d.afterAll path c [deed]).afterAll path (c.after deed) ds = d.afterAll path c (deed :: ds)
  := by
  have hone : c.afterAll [deed] = c.after deed := rfl
  have hall : c.afterAll (deed :: ds) = (c.after deed).afterAll ds := rfl
  simp only [afterAll, List.any_cons, List.any_nil, Bool.or_false, hone, hall]
  cases hpersists : deed.persists c with
  | false =>
      rw [StoreContents.after_of_not_persists hpersists hdeed, Bool.false_or,
        if_neg Bool.false_ne_true]
  | true =>
      rw [Bool.true_or, if_pos rfl, if_pos rfl]
      split
      case isTrue => rw [writeStore_writeStore]
      case isFalse hnone =>
          rw [StoreContents.afterAll_of_not_persists hds (Bool.eq_false_iff.mpr hnone)]

theorem Disk.afterAll_congr (d : Disk) (path : String) (hds : StoreDeed.Tidy ds)
    (hds' : StoreDeed.Tidy ds') (h : ∀ deed, deed ∈ ds ↔ deed ∈ ds') :
  d.afterAll path c ds' = d.afterAll path c ds
  := by
  have hany : ds.any (·.persists c) = ds'.any (·.persists c) := by
    rw [Bool.eq_iff_iff, List.any_eq_true, List.any_eq_true]
    simp only [h]
  rw [afterAll, afterAll, c.afterAll_eq_left hds, c.afterAll_eq_left hds', c.left_congr h, hany]

/-- The document is read as the contents, if it has been so or if anything is purged. -/
theorem Disk.readStore_afterAll {d : Disk} {path : String} {c' : StoreContents}
    (hread : d.readStore path = .ok c') (hds : ∀ deed ∈ ds, deed.writes = true)
    (h : c' = c ∨ .purge ∈ ds) :
  (d.afterAll path c ds).readStore path = .ok (c.afterAll ds)
  := by
  rw [afterAll]
  split
  case isTrue => exact readStore_writeStore hread (c.afterAll ds)
  case isFalse hnone =>
      rcases h with rfl | hpurge
      · rw [StoreContents.afterAll_of_not_persists hds (Bool.eq_false_iff.mpr hnone)]
        exact hread
      · exact absurd (List.any_eq_true.mpr ⟨.purge, hpurge, rfl⟩) hnone

namespace StoreDeed

/-- An operation that changes the contents writes them, or else does nothing to the archive. -/
theorem archive_act_of_writes (honest : e.store.library.Honest) {deed : StoreDeed}
    (hwrites : deed.writes = true) (hx : s.2.stores.get? e.store.ref = some x) :
  (deed.act e s).2.2
    = if deed.persists x.contents then
        s.2.changeContents e.store.ref fun c => c.after deed
      else s.2
  := by
  have hbackend : e.store.library.backend = Archive.backend := honest
  cases deed with
  | discardUnit unit =>
      simp only [act, Scene.archive_useDesk, EventStore.discardUnit, Access.terminated_eq]
      by_cases hzero : '\x00' ∈ unit.toList
      · simp only [persists, hzero]
        rfl
      · simp only [if_neg hzero, bind, Access.bind, Access.pure, Access.change, EventStore.calling,
          hbackend, Archive.backend, Archive.discardUnit, hx, Text.decode_octets]
        cases hunit : x.contents.unit? unit with
        | none => simp [persists, hunit]
        | some u =>
            simp [persists, hunit, hzero, StoreContents.after, request?, StoreContents.change]
  | discardRecord record =>
      simp only [act, Scene.archive_use, Store.discardRecord, Access.terminated_eq]
      by_cases hzero : '\x00' ∈ record.toList
      · simp only [persists, hzero]
        rfl
      · simp only [if_neg hzero, bind, Access.bind, Access.pure, Access.change, hbackend,
          Archive.backend, Archive.discardRecord, Text.decode_octets]
        simp [persists, hzero, StoreContents.after, request?, StoreContents.change]
  | purge =>
      simp only [act, Scene.archive_use, Store.purge, Access.change, hbackend]
      rfl
  | _ => cases hwrites

/-- An operation that changes the contents leaves the stores that are held as they are. -/
theorem stores_act_of_writes {deed : StoreDeed} (hwrites : deed.writes = true) (s : Scene) :
  (deed.act e s).2.1.stores = s.1.stores
  := by
  cases deed with
  | discardUnit unit =>
      rw [act, Scene.useDesk]
      rcases e.discardUnit unit (s.1.desk, s.2) with ⟨_ | _, _, _⟩ <;> rfl
  | discardRecord record =>
      rw [act, Scene.use]
      rcases e.store.discardRecord record s.2 with ⟨_ | _, _⟩ <;> rfl
  | purge => rfl
  | _ => cases hwrites

end StoreDeed

/-! ### One operation after the other -/

namespace Scene

/-- What operations on a store leave, first one first. -/
def afterAll (s : Scene) (ref : StoreRef) (ds : List StoreDeed) : Scene :=
  ds.foldl (fun s deed => s.after ref deed) s

/-- A store is held and open, and there is a disk. -/
structure Keeps (ref : StoreRef) (e : EventStore Archive) (x : ArchiveStore) (d : Disk)
    (s : Scene) : Prop where
  held : s.1.store? ref = some e
  opened : s.2.stores.get? ref = some x
  disk : s.2.disk = d

variable {d : Disk}

theorem Keeps.after (h : s.Keeps e.store.ref e x d) (honest : e.store.library.Honest)
    {deed : StoreDeed} (hwrites : deed.writes = true) :
  (s.after e.store.ref deed).Keeps e.store.ref e
    { x with contents := x.contents.after deed }
    (d.afterAll x.path x.contents [deed])
  := by
  have harchive := deed.archive_act_of_writes
    (s := (s.1.note ⟨e.store.directory, deed.installs e⟩, s.2)) honest hwrites h.opened
  have hstores := deed.stores_act_of_writes (e := e) hwrites
    (s.1.note ⟨e.store.directory, deed.installs e⟩, s.2)
  rw [Scene.after, Deed.run_onStore h.held]
  refine ⟨?_, ?_, ?_⟩
  · rw [Holdings.store?, hstores]
    exact h.held
  · rw [harchive]
    split
    case isTrue =>
        have hwith := Archive.with_changeContents h.opened (fun c => c.after deed) e.store.ref
        rwa [if_pos rfl] at hwith
    case isFalse hpersists =>
        rw [StoreContents.after_of_not_persists (by simpa using hpersists) hwrites]
        exact h.opened
  · have hone : x.contents.afterAll [deed] = x.contents.after deed := rfl
    rw [harchive, Disk.afterAll, List.any_cons, List.any_nil, Bool.or_false, hone]
    split
    · simp only [Archive.changeContents, h.opened, Archive.persist, h.disk]
    · exact h.disk

theorem Keeps.afterAll (h : s.Keeps e.store.ref e x d) (honest : e.store.library.Honest)
    (hds : ∀ deed ∈ ds, deed.writes = true) :
  (s.afterAll e.store.ref ds).Keeps e.store.ref e
    { x with contents := x.contents.afterAll ds } (d.afterAll x.path x.contents ds)
  := by
  induction ds generalizing s x d with
  | nil => exact h
  | cons deed ds ih =>
      have hfirst := hds deed List.mem_cons_self
      have hothers : ∀ d ∈ ds, d.writes = true := fun d hd => hds d (List.mem_cons_of_mem deed hd)
      rw [← Disk.afterAll_cons d x.path hfirst hothers]
      exact ih (h.after honest hfirst) hothers

/-- What is left in an open store, and on the disk, is the same for all who discard the same names
and purge in the end or not at all. If the document has been read as what the store holds, or if
anything is purged, it is read as what is left. -/
theorem removals_confluent {β : Type} {p : Program β} {disk : Disk}
    (h : p.Reaches (start disk) s) (he : s.1.store? ref = some e)
    (hds : ∀ deed ∈ ds, deed.writes = true) (hsame : ∀ deed, deed ∈ ds ↔ deed ∈ ds')
    (htidy : StoreDeed.Tidy ds) (htidy' : StoreDeed.Tidy ds') :
  ∃ x, s.2.stores.get? ref = some x
    ∧ (s.afterAll ref ds).2.stores.get? ref = some { x with contents := x.contents.left ds }
    ∧ (s.afterAll ref ds').2.stores.get? ref = some { x with contents := x.contents.left ds }
    ∧ (s.afterAll ref ds').2.disk = (s.afterAll ref ds).2.disk
    ∧ ∀ c, s.2.disk.readStore x.path = .ok c → c = x.contents ∨ .purge ∈ ds →
        (s.afterAll ref ds).2.disk.readStore x.path = .ok (x.contents.left ds)
  := by
  obtain ⟨hs, -⟩ := h.attached
  obtain ⟨rfl, -, honest, x, hx⟩ := hs.store_held he
  have hkeeps : s.Keeps e.store.ref e x s.2.disk := ⟨he, hx, rfl⟩
  have hds' : ∀ deed ∈ ds', deed.writes = true :=
    fun deed hdeed => hds deed ((hsame deed).mpr hdeed)
  have hfirst := hkeeps.afterAll honest hds
  have hsecond := hkeeps.afterAll honest hds'
  rw [x.contents.afterAll_eq_left htidy] at hfirst
  rw [x.contents.afterAll_eq_left htidy', ← x.contents.left_congr hsame] at hsecond
  refine ⟨x, hx, hfirst.opened, hsecond.opened, ?_, ?_⟩
  · rw [hfirst.disk, hsecond.disk]
    exact s.2.disk.afterAll_congr x.path htidy htidy' hsame
  · intro c hread hc
    rw [hfirst.disk, ← x.contents.afterAll_eq_left htidy]
    exact Disk.readStore_afterAll hread hds hc

/-- Two units of three are discarded, and a record that is still in use. One client purges in the
end, the other one also in between. The record that is shared is left, since one unit that is left
depends on it; a record on which only a discarded unit depends goes, and so does one on which no
unit depends. A dependency on a record that is not there makes no difference. -/
theorem removals_confluent_purges :
  let record (name : String) : DependencyEntry :=
    { kind := Vocabulary.code DependencyKind.record, name }
  let kept : UnitEntry :=
    { name := "c", dependencies := [record "shared", record "used", record "gone"] }
  let contents : StoreContents := {
    units := [
      { name := "a", dependencies := [record "shared", record "own"] },
      kept,
      { name := "b", dependencies := [record "gone", record "shared"] }]
    records := [{ name := "own" }, { name := "shared" }, { name := "used" }, { name := "loose" }] }
  let s := ((Deed.openStore (.ofArchive .closure) "stores" none).run
    (start (.holding "stores" (some contents.document)))).2
  let ds : List StoreDeed :=
    [.discardUnit "a", .discardUnit "b", .discardRecord "used", .purge]
  let ds' : List StoreDeed :=
    [.discardUnit "b", .purge, .discardRecord "used", .discardUnit "a", .discardUnit "b", .purge]
  let left : StoreContents := { units := [kept], records := [{ name := "shared" }] }
  ∃ e x, s.1.store? 0 = some e
    ∧ (∀ deed ∈ ds, deed.writes = true) ∧ (∀ deed, deed ∈ ds ↔ deed ∈ ds')
    ∧ StoreDeed.Tidy ds ∧ StoreDeed.Tidy ds'
    ∧ s.2.stores.get? 0 = some x ∧ x.contents = contents
    ∧ (s.afterAll 0 ds).2.stores.get? 0 = some { x with contents := left }
    ∧ (s.afterAll 0 ds').2.stores.get? 0 = some { x with contents := left }
    ∧ (s.afterAll 0 ds').2.disk = (s.afterAll 0 ds).2.disk
    ∧ (s.afterAll 0 ds).2.disk.readStore x.path = .ok left
  := by
  intro record kept contents s ds ds' left
  have hread : (Disk.holding "stores" (some contents.document)).readStore "stores" = .ok contents :=
    Disk.readStore_holding (StoreContents.ofDocument?_document contents)
  have hopen := Deed.run_openStore
    (s := start (.holding "stores" (some contents.document))) (l := .ofArchive .closure)
    Text.terminated?_stores hread
  have hreaches : (Program.deed (.openStore (.ofArchive .closure) "stores" none)).Reaches
      (start (.holding "stores" (some contents.document))) s :=
    .perform (.here _ _)
  have hheld : ∃ e, s.1.store? 0 = some e := by
    simp only [s, hopen]
    exact ⟨_, rfl⟩
  have hopened : s.2.stores.get? 0 = some { path := "stores", mappings := [], contents } := by
    simp only [s, hopen]
    rfl
  have hstored : s.2.disk.readStore "stores" = .ok contents := by
    simp only [s, hopen]
    exact hread
  obtain ⟨e, he⟩ := hheld
  have hds : ∀ deed ∈ ds, deed.writes = true := by simp [ds, StoreDeed.writes]
  have hsame : ∀ deed, deed ∈ ds ↔ deed ∈ ds' := by
    intro deed
    simp only [ds, ds', List.mem_cons, List.not_mem_nil, or_false]
    tauto
  have htidy : StoreDeed.Tidy ds := .inr rfl
  have htidy' : StoreDeed.Tidy ds' := .inr rfl
  obtain ⟨x, hx, hfirst, hsecond, hdisk, hdocument⟩ :=
    removals_confluent hreaches he hds hsame htidy htidy'
  obtain rfl := Option.some.inj (hx.symm.trans hopened)
  have hleft : contents.left ds = left := by decide +kernel
  rw [hleft] at hfirst hsecond hdocument
  exact ⟨e, _, he, hds, hsame, htidy, htidy', hx, rfl, hfirst, hsecond, hdisk,
    hdocument contents hstored (.inl rfl)⟩

end Scene

end SymbolIndex
