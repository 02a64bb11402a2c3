import SymbolIndex.Proofs.Isolation.Courses

/-!
# Documents on the disk

Documents are written through open stores alone. So a document is as it has been written last, and
the store through which it has been written then holds what is in it.
-/

namespace SymbolIndex

/-! ### What is written in calls -/

/-- What is written to the disk, through which store and in which directory. It is what the store
holds then. -/
structure Write where
  store : StoreRef
  directory : String
  contents : StoreContents

/-- What is written in a call. -/
def Call.write? (s : Scene) : Call → Option Write
  | deed (.onStore ref d) =>
    match s.1.store? ref, s.2.stores.get? ref with
    | some _, some x =>
      if d.persists x.contents then some ⟨ref, x.path, x.contents.after d⟩ else none
    | _, _ => none
  | _ => none

/-- What is written in some calls, first one first. -/
def Scene.writes : List Call → Scene → List Write
  | [], _ => []
  | c :: calls, s => (c.write? s).toList ++ writes calls (c.run s)

/-- What has been written last to the document of a directory. -/
def Disk.written? (d : Disk) (ws : List Write) (directory : String) : Option Write :=
  (ws.filter fun w => d.Shares w.directory directory).getLast?

theorem Disk.written?_concat (d : Disk) (ws : List Write) (w : Write) (directory : String) :
  d.written? (ws ++ [w]) directory
    = if d.Shares w.directory directory then some w else d.written? ws directory
  := by
  rw [written?, List.filter_append, List.filter_singleton]
  split
  case isTrue hshares => simp [hshares]
  case isFalse hother => simp [hother, written?]

theorem Disk.shares_of_written? {d : Disk} {ws : List Write} {w : Write} {directory : String}
    (h : d.written? ws directory = some w) :
  d.Shares w.directory directory
  := by
  have hmem := List.mem_of_getLast? h
  simpa using (List.mem_filter.mp hmem).2

open Archive (Retains With)

variable {s : Scene} {ref : StoreRef} {x : ArchiveStore} {c : Call}

/-- The contents of an open store are changed, and written to the disk. -/
structure Archive.Writes (w : Write) (a a' : Archive) : Prop where
  opened : ∃ x, a.stores.get? w.store = some x ∧ x.path = w.directory
    ∧ With w.store { x with contents := w.contents } a a'
  disk : a'.disk = a.disk.writeStore w.directory w.contents
  next : a'.stores.next = a.stores.next

theorem Archive.writes_changeContents {a : Archive} (hx : a.stores.get? ref = some x)
    (f : StoreContents → StoreContents) :
  Archive.Writes ⟨ref, x.path, f x.contents⟩ a (a.changeContents ref f)
  := by
  refine ⟨⟨x, hx, rfl, with_changeContents hx f⟩, ?_, ?_⟩
  · simp only [changeContents, hx]
    rfl
  · simp only [changeContents, hx, persist, Table.next_modify]

/-- No store is opened with an error. -/
theorem Scene.Opens.succeeds {l : Library Archive} {path : String} {options : Option OptionsRef}
    {e : EventStore Archive} (h : s.Opens e x ((Deed.openStore l path options).run s).2) :
  ((Deed.openStore l path options).run s).1 = .ok ()
  := by
  have hstores := h.stores
  simp only [Deed.run, use] at hstores ⊢
  rcases hopen : Store.openAt (l.withArchive l.convention) path (options.bind s.1.option?) s.2
    with ⟨halt | store, a⟩
  · rw [hopen] at hstores
    have hlength := congrArg List.length hstores
    simp [Holdings.note] at hlength
  · rfl

namespace StoreDeed

theorem writes_of_persists {contents : StoreContents} {deed : StoreDeed}
    (h : deed.persists contents = true) :
  deed.writes = true
  := by
  cases deed with
  | discardUnit _ | discardRecord _ | purge => rfl
  | _ => cases h

end StoreDeed

namespace Call

theorem write?_onStore {e : EventStore Archive} (he : s.1.store? ref = some e)
    (hx : s.2.stores.get? ref = some x) (d : StoreDeed) :
  (deed (.onStore ref d)).write? s
    = if d.persists x.contents then some ⟨ref, x.path, x.contents.after d⟩ else none
  := by
  simp only [write?, he, hx]

theorem of_write? {w : Write} (h : c.write? s = some w) :
  ∃ d e x, c = .deed (.onStore w.store d) ∧ s.1.store? w.store = some e
    ∧ s.2.stores.get? w.store = some x ∧ d.persists x.contents = true
    ∧ w = ⟨w.store, x.path, x.contents.after d⟩
  := by
  unfold write? at h
  split at h
  case h_1 ref d =>
      split at h
      case h_1 e x he hx =>
          split at h
          case isTrue hpersists =>
              obtain rfl := Option.some.inj h
              exact ⟨d, e, x, rfl, he, hx, hpersists, rfl⟩
          case isFalse => cases h
      case h_2 => cases h
  case h_2 => cases h

/-- What is written in a call is what the store holds then. -/
theorem writes_of_write? (hs : s.Sound) {w : Write} (h : c.write? s = some w) :
  Archive.Writes w s.2 (c.run s).2
  := by
  obtain ⟨d, e, x, rfl, he, hx, hpersists, hw⟩ := of_write? h
  obtain ⟨href, -, honest, -⟩ := hs.store_held he
  rw [← href] at hx
  have hact := fun u => StoreDeed.archive_act_of_writes (s := (s.1.note u, s.2)) honest
    (StoreDeed.writes_of_persists hpersists) hx
  rw [run, Deed.run_onStore he, hact, if_pos hpersists, hw, href]
  exact Archive.writes_changeContents (href ▸ hx) fun c => c.after d

/-- Where nothing is written the disk and what the stores hold stay as they are. -/
theorem retains_of_write? (hs : s.Sound) (hdisk : ∀ f, c ≠ .deed (.changeDisk f))
    (h : c.write? s = none) :
  Retains s.2 (c.run s).2
  := by
  rcases c.deed_or_aside hs with ⟨d, rfl⟩ | haside
  · by_cases hwrites : d.writes = false
    · exact d.run_retains hs hwrites
    · cases d with
      | changeDisk f => exact absurd rfl (hdisk f)
      | onStore ref d =>
          cases he : s.1.store? ref with
          | none =>
              rw [run, Deed.run_onStore_of_none he]
              exact refl_of Retains s.2
          | some e =>
              obtain ⟨rfl, -, honest, x, hx⟩ := hs.store_held he
              have hwrites' : d.writes = true := by simpa [Deed.writes] using hwrites
              have hact := fun u =>
                StoreDeed.archive_act_of_writes (s := (s.1.note u, s.2)) honest hwrites' hx
              have hkeeps : ¬ d.persists x.contents = true := by
                intro hpersists
                rw [write?_onStore he hx, if_pos hpersists] at h
                cases h
              rw [run, Deed.run_onStore he, hact, if_neg hkeeps]
              exact refl_of Retains s.2
      | _ => exact absurd rfl hwrites
  · exact haside.archive.retains

/-- A store that has been opened holds what is read in its directory. -/
theorem readStore_opened (hs : s.Sound) (hnew : s.2.stores.next ≤ ref)
    (hx : (c.run s).2.stores.get? ref = some x) :
  s.2.disk.readStore x.path = .ok x.contents
  := by
  have hmade : ∀ {y}, s.2.stores.get? ref ≠ some y := fun hy =>
    absurd (hs.archive.storeTable.fresh _ (Table.get?_mem hy)) (Nat.not_lt.mpr hnew)
  rcases c.deed_or_aside hs with ⟨d, rfl⟩ | haside
  · have hdoes := d.run_does hs
    rw [run] at hx
    generalize hrun : (d.run s).2 = s' at hdoes hx
    cases hdoes with
    | still hstill =>
        have hstores : s'.2.stores = s.2.stores := hstill.archive
        rw [hstores] at hx
        exact absurd hx hmade
    | onDesk deed => exact absurd hx hmade
    | @opens l path options e x₀ _ hopens =>
        rw [← hrun] at hopens
        obtain ⟨haccepts, hzero, contents, hread⟩ := Deed.of_run_openStore hopens.succeeds
        rw [← hrun, Deed.run_openStore_of haccepts hzero hread] at hx
        rcases Table.found_insert hx with hx | ⟨-, rfl⟩
        · exact absurd hx hmade
        · exact hread
    | @onStore e x₀ deed u he honest hx₀ hreads =>
        have hne : ref ≠ e.store.ref := by
          rintro rfl
          exact hmade hx₀
        obtain ⟨-, hopen⟩ := deed.act_others (s := (s.1.note u, s.2)) honest hx₀ hne
        rw [hopen] at hx
        exact absurd hx hmade
  · have hstores : (c.run s).2.stores = s.2.stores := haside.still.archive
    rw [hstores] at hx
    exact absurd hx hmade

end Call

/-! ### What is on the disk -/

/-- The documents are as they have been written last, or as they were on a disk before. -/
structure Scene.Documented (s : Scene) (disk : Disk) (ws : List Write) : Prop where
  /-- What has been written through the stores is all that is different. -/
  alike : disk.Alike s.2.disk
  read : ∀ directory, s.2.disk.readStore directory
    = (disk.written? ws directory).elim (disk.readStore directory) fun w => .ok w.contents
  /-- The store that has written last holds what it has written. -/
  holds : ∀ directory w, disk.written? ws directory = some w → w.store < s.2.stores.next
    ∧ ∀ x, s.2.stores.get? w.store = some x → x.path = w.directory ∧ x.contents = w.contents
  opened : ∀ ref x, s.2.stores.get? ref = some x → ∃ c, s.2.disk.readStore x.path = .ok c

namespace Scene.Documented

variable {disk : Disk} {ws : List Write} {s' : Scene}

theorem start (disk : Disk) :
  (Scene.start disk).Documented disk []
  := by
  refine ⟨fun _ => rfl, fun _ => rfl, nofun, ?_⟩
  intro ref x hx
  cases hx

/-- Stores may be opened and closed. -/
theorem retains (h : s.Documented disk ws) (h' : Retains s.2 s'.2)
    (hopened : ∀ ref x, s.2.stores.next ≤ ref → s'.2.stores.get? ref = some x →
      s.2.disk.readStore x.path = .ok x.contents) :
  s'.Documented disk ws
  := by
  refine ⟨h'.disk ▸ h.alike, h'.disk ▸ h.read, ?_, ?_⟩
  · intro directory w hw
    obtain ⟨hmade, hholds⟩ := h.holds directory w hw
    refine ⟨Nat.lt_of_lt_of_le hmade h'.next, fun x' hx' => ?_⟩
    obtain ⟨x, hx, hsame⟩ := h'.stores _ x' hmade hx'
    rw [hsame.path, hsame.contents]
    exact hholds x hx
  · intro ref x' hx'
    rw [h'.disk]
    rcases Nat.lt_or_ge ref s.2.stores.next with hmade | hnew
    · obtain ⟨x, hx, hsame⟩ := h'.stores ref x' hmade hx'
      rw [hsame.path]
      exact h.opened ref x hx
    · exact ⟨_, hopened ref x' hnew hx'⟩

theorem writes (h : s.Documented disk ws) {w : Write} (hw : Archive.Writes w s.2 s'.2)
    (hmade : w.store < s.2.stores.next) :
  s'.Documented disk (ws ++ [w])
  := by
  obtain ⟨x, hx, hpath, hwith⟩ := hw.opened
  obtain ⟨c, hread⟩ := h.opened w.store x hx
  rw [hpath] at hread
  have hshares : ∀ directory,
      s.2.disk.Shares w.directory directory ↔ disk.Shares w.directory directory := by
    intro directory
    rw [Disk.Shares, Disk.Shares, h.alike.locate_eq, h.alike.locate_eq]
  have hwritten := Disk.readStore_writeStore_eq hread w.contents
  refine ⟨?_, ?_, ?_, ?_⟩
  · intro q
    rw [hw.disk, h.alike q]
    exact Disk.alike_writeStore hread w.contents q
  · intro directory
    rw [hw.disk, hwritten, disk.written?_concat]
    simp only [hshares]
    split
    case isTrue => rfl
    case isFalse => exact h.read directory
  · intro directory w' hw'
    rw [disk.written?_concat] at hw'
    rw [hw.next]
    split at hw'
    case isTrue =>
        obtain rfl := Option.some.inj hw'
        refine ⟨hmade, fun x' hx' => ?_⟩
        rw [hwith, if_pos rfl] at hx'
        obtain rfl := Option.some.inj hx'
        exact ⟨hpath, rfl⟩
    case isFalse hother =>
        obtain ⟨hmade', hholds⟩ := h.holds directory w' hw'
        refine ⟨hmade', fun x' hx' => ?_⟩
        have hne : w'.store ≠ w.store := by
          intro hsame
          obtain ⟨hpath', -⟩ := hholds x (hsame ▸ hx)
          rw [← hpath, hpath'] at hother
          exact hother (Disk.shares_of_written? hw')
        rw [hwith, if_neg hne] at hx'
        exact hholds x' hx'
  · intro ref x' hx'
    rw [hwith] at hx'
    have hreadable : ∃ c, s.2.disk.readStore x'.path = .ok c := by
      split at hx'
      case isTrue =>
          obtain rfl := Option.some.inj hx'
          exact ⟨c, hpath ▸ hread⟩
      case isFalse => exact h.opened ref x' hx'
    rw [hw.disk, hwritten]
    split
    case isTrue => exact ⟨_, rfl⟩
    case isFalse => exact hreadable

theorem call (h : s.Documented disk ws) (hs : s.Sound) {c : Call}
    (hdisk : ∀ f, c ≠ .deed (.changeDisk f)) :
  (c.run s).Documented disk (ws ++ (c.write? s).toList)
  := by
  cases hwrite : c.write? s with
  | none =>
      rw [Option.toList_none, List.append_nil]
      exact h.retains (c.retains_of_write? hs hdisk hwrite) fun _ _ => c.readStore_opened hs
  | some w =>
      have hw := c.writes_of_write? hs hwrite
      obtain ⟨x, hx, -⟩ := hw.opened
      exact h.writes hw (hs.archive.storeTable.fresh _ (Table.get?_mem hx))

/-- Documents are changed by what is written in calls, and by nothing else. -/
theorem called (h : s.Documented disk ws) (hs : s.Sound) {calls : List Call}
    (hdisk : ∀ f, .deed (.changeDisk f) ∉ calls) :
  (s.called calls).Documented disk (ws ++ Scene.writes calls s)
  := by
  induction calls generalizing s ws with
  | nil =>
      rw [Scene.writes, List.append_nil]
      exact h
  | cons c calls ih =>
      rw [Scene.writes, ← List.append_assoc]
      apply ih
      · exact h.call hs fun f hc => hdisk f (hc ▸ List.mem_cons_self)
      · exact c.run_sound hs
      · exact fun f hc => hdisk f (List.mem_cons_of_mem c hc)

end Scene.Documented

end SymbolIndex
