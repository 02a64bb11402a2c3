import SymbolIndex.Proofs.Archive.Files
import SymbolIndex.Proofs.Events.Calls

/-!
# Stores as they are on the disk

An open store is stored if its document is read as the contents that the store holds. What changes
the contents writes them to the disk at once, and everything else leaves both as they are. So a
store stays stored as long as its document is written through it alone.
-/

namespace SymbolIndex

open Text (Octets)

variable {α : Type} {s s' : Scene} {ref : StoreRef}

/-- The stores are at one path, and have the same mappings and contents. -/
structure ArchiveStore.Same (x x' : ArchiveStore) : Prop where
  path : x'.path = x.path
  mappings : x'.mappings = x.mappings
  contents : x'.contents = x.contents

namespace ArchiveStore

variable (x : ArchiveStore)

theorem Same.refl :
  x.Same x
  := ⟨rfl, rfl, rfl⟩

theorem Same.trans {x x' x'' : ArchiveStore} (h : x.Same x') (h' : x'.Same x'') :
  x.Same x''
  := ⟨h'.path.trans h.path, h'.mappings.trans h.mappings, h'.contents.trans h.contents⟩

theorem same_deliverPending :
  x.Same x.deliverPending.2
  := by
  rw [deliverPending]
  split <;> exact ⟨rfl, rfl, rfl⟩

/-- The end of listening takes what is pending, and leaves the contents. -/
theorem same_stopListening :
  x.Same x.stopListening.2
  := by
  have hdelivered := same_deliverPending { x with listening := false }
  exact ⟨hdelivered.path, hdelivered.mappings, hdelivered.contents⟩

end ArchiveStore

/-! ### What leaves the contents of stores alone -/

namespace Archive

/-- The disk stays as it is, and so does what is held by each store that stays open. Stores may be
opened and closed, and handlers may come and go. -/
structure Retains (a a' : Archive) : Prop where
  disk : a'.disk = a.disk
  next : a.stores.next ≤ a'.stores.next
  stores : ∀ ref x', ref < a.stores.next → a'.stores.get? ref = some x' →
    ∃ x, a.stores.get? ref = some x ∧ x.Same x'

instance : IsPreorder Archive Retains where
  refl _ := ⟨rfl, Nat.le_refl _, fun _ x' _ hx => ⟨x', hx, .refl x'⟩⟩
  trans a a' a'' h h' := by
    refine ⟨h'.disk.trans h.disk, Nat.le_trans h.next h'.next, ?_⟩
    intro ref x'' hmade hx''
    obtain ⟨x', hx', hsame'⟩ := h'.stores ref x'' (Nat.lt_of_lt_of_le hmade h.next) hx''
    obtain ⟨x, hx, hsame⟩ := h.stores ref x' hmade hx'
    exact ⟨x, hx, hsame.trans hsame'⟩

variable {a a' : Archive}

/-- What happens aside changes no store, and no document either. -/
theorem Aside.retains (h : Aside a a') :
  Retains a a'
  := by
  have hstores : a'.stores = a.stores := h.stores
  refine ⟨h.disk, Nat.le_of_eq (by rw [hstores]), ?_⟩
  intro ref x' _ hx'
  rw [hstores] at hx'
  exact ⟨x', hx', .refl x'⟩

/-- One store is changed, but not in what it holds. -/
theorem retains_of_modify {x x' : ArchiveStore} (hx : a.stores.get? ref = some x)
    (hsame : x.Same x') (hdisk : a'.disk = a.disk)
    (hstores : a'.stores = a.stores.modify ref fun _ => x') :
  Retains a a'
  := by
  refine ⟨hdisk, Nat.le_of_eq (by rw [hstores, Table.next_modify]), ?_⟩
  intro r y hmade hy
  rw [hstores, Table.get?_modify] at hy
  split at hy
  case isTrue hr =>
      subst hr
      rw [hx] at hy
      obtain rfl := Option.some.inj hy
      exact ⟨x, hx, hsame⟩
  case isFalse => exact ⟨y, hy, .refl y⟩

variable (a)

theorem retains_withStore {f : ArchiveStore → List HandlerCall × ArchiveStore}
    (hf : ∀ x : ArchiveStore, x.Same (f x).2) (ref : StoreRef) :
  Retains a (withStore ref f a).2
  := by
  rw [withStore]
  split
  case h_1 => exact refl_of Retains a
  case h_2 x hx => exact retains_of_modify hx (hf x) rfl rfl

/-- To listen is to change a store, but not in what it holds. -/
theorem retains_startListening (ref : StoreRef) (wait : Bool) :
  Retains a (startListening ref wait a).2
  := by
  simp only [startListening]
  split
  case h_1 => exact refl_of Retains a
  case h_2 x hx =>
      have hlistens : ∀ a' : Archive, a'.disk = a.disk →
          (a'.stores = a.stores.modify ref fun _ => (x.listen wait).2) → Retains a a' :=
        fun _ => retains_of_modify hx ⟨rfl, rfl, rfl⟩
      split
      · exact refl_of Retains a
      · split
        · exact Aside.retains ⟨rfl, rfl⟩
        · split
          · exact hlistens _ rfl rfl
          · exact hlistens _ rfl rfl

/-- A store that is closed takes nothing from the others. -/
theorem retains_disposeStore (ref : StoreRef) :
  Retains a (disposeStore ref a).2
  := by
  rw [disposeStore]
  split
  case h_1 => exact refl_of Retains a
  case h_2 x hx =>
      refine ⟨rfl, Nat.le_of_eq (a.stores.next_erase ref).symm, ?_⟩
      intro r y _ hy
      have herased := Table.get?_erase (t := a.stores) r ref
      split at herased
      case isTrue => cases herased.symm.trans hy
      case isFalse => exact ⟨y, herased.symm.trans hy, .refl y⟩

/-- A store that is opened has a reference of its own. -/
theorem retains_createStore (octets : Octets) (options : Option OptionsRef) :
  Retains a (createStore octets options a).2
  := by
  simp only [createStore]
  split
  case h_1 => exact Aside.retains ⟨rfl, rfl⟩
  case h_2 contents _ =>
      refine ⟨rfl, Nat.le_succ _, ?_⟩
      intro r y hmade hy
      rcases Table.found_insert hy with hy | ⟨rfl, -⟩
      · exact ⟨y, hy, .refl y⟩
      · exact absurd hmade (Nat.lt_irrefl _)

end Archive

open Archive (Retains)

theorem Archive.reads_retains :
  Reads Retains
  where
  disposeError e a := (reads_aside.disposeError e a).retains
  createRecordReader store octets a := (reads_aside.createRecordReader store octets a).retains
  disposeRecordReader ref a := (reads_aside.disposeRecordReader ref a).retains
  createUnitReader store octets a := (reads_aside.createUnitReader store octets a).retains
  disposeUnitReader ref a := (reads_aside.disposeUnitReader ref a).retains
  unitTime ref octets a := (reads_aside.unitTime ref octets a).retains

namespace Scene

/-- What a use leaves of the archive is what the access leaves. -/
theorem archive_use (m : Access Archive α) (keep : α → Holdings → Holdings) (s : Scene) :
  (use m keep s).2.2 = (m s.2).2
  := by
  rw [use]
  rcases m s.2 with ⟨e | x, a⟩ <;> rfl

theorem archive_useDesk (m : Access (Desk × Archive) α) (keep : α → Holdings → Holdings)
    (s : Scene) :
  (useDesk m keep s).2.2 = (m (s.1.desk, s.2)).2.2
  := by
  rw [useDesk]
  rcases m (s.1.desk, s.2) with ⟨e | x, desk, a⟩ <;> rfl

end Scene

open Scene (archive_use archive_useDesk)

/-- The operation changes the contents of the store. -/
def StoreDeed.writes : StoreDeed → Bool
  | discardUnit _ | discardRecord _ | purge => true
  | _ => false

namespace StoreDeed

variable {e : EventStore Archive} (honest : e.store.library.Honest)

include honest

/-- An operation that does not change the contents retains them. -/
theorem act_retains {deed : StoreDeed} (h : deed.writes = false) (s : Scene) :
  Retains s.2 (deed.act e s).2.2
  := by
  have hbackend : e.store.library.backend = Archive.backend := honest
  have hreads : ∀ deed : StoreDeed, deed.reads = true → Retains s.2 (deed.act e s).2.2 :=
    fun deed hdeed => (act_aside honest hdeed s).archive.retains
  have hinstalls : ∀ h, Retains s.2 (Archive.setHandler e.store.ref h s.2).2 := by
    intro h
    apply Archive.retains_withStore
    exact fun x => ⟨rfl, rfl, rfl⟩
  cases deed with
  | unitNames sorted => exact hreads _ rfl
  | unitNamesFiltered includeSystem => exact hreads _ rfl
  | unitName outputPath => exact hreads _ rfl
  | unitTime unit => exact hreads _ rfl
  | openRecord record => exact hreads _ rfl
  | openUnit unit => exact hreads _ rfl
  | setHandler journal =>
      rw [act, archive_useDesk]
      simp only [EventStore.setHandler, EventStore.install, EventStore.calling, hbackend]
      apply hinstalls
  | subscribe =>
      rw [act_subscribe]
      simp only [EventStore.ownFeed]
      split
      · exact refl_of Retains s.2
      · simp only [EventStore.install, EventStore.calling, hbackend]
        apply hinstalls
  | start wait =>
      rw [act, archive_useDesk]
      exact Archive.reads_retains.start_within honest
        (fun ref wait a => a.retains_startListening ref wait) wait (s.1.desk, s.2)
  | stop =>
      simp only [act, archive_useDesk, EventStore.stop, hbackend]
      exact s.2.retains_withStore ArchiveStore.same_stopListening e.store.ref
  | background =>
      simp only [act, archive_useDesk, EventStore.background, hbackend]
      exact s.2.retains_withStore ArchiveStore.same_deliverPending e.store.ref
  | close =>
      simp only [act, archive_useDesk, Access.change, EventStore.close, EventStore.calling,
        hbackend]
      apply Archive.retains_disposeStore
  | discardUnit unit => cases h
  | discardRecord record => cases h
  | purge => cases h

end StoreDeed

/-- The operation may change the disk. -/
def Deed.writes : Deed → Bool
  | changeDisk _ => true
  | onStore _ deed => deed.writes
  | _ => false

theorem Deed.run_retains (hs : s.Sound) {deed : Deed} (h : deed.writes = false) :
  Retains s.2 (deed.run s).2.2
  := by
  cases deed with
  | changeDisk f => cases h
  | onDesk deed => exact refl_of Retains s.2
  | openStore l path options =>
      rw [Deed.run, archive_use]
      exact Archive.reads_retains.openAt_within (l.withArchive_honest l.convention)
        (fun octets options a => a.retains_createStore octets options) path _ _
  | onStore store deed =>
      cases he : s.1.store? store with
      | none =>
          rw [Deed.run_onStore_of_none he]
          exact refl_of Retains s.2
      | some e =>
          obtain ⟨-, -, honest, -⟩ := hs.store_held he
          rw [Deed.run_onStore he]
          exact StoreDeed.act_retains honest h (s.1.note _, s.2)
  | createOptions l | addMapping options source target | disposeOptions options
  | onRecord record deed | onUnit unit deed | onItem l deed =>
      apply Archive.Aside.retains
      apply Scene.Aside.archive
      apply Deed.run_aside _ _ hs
      · trivial
      · intro f h
        cases h

/-! ### Stores that are stored -/

/-- A store has been opened, and as long as it is open its document is read as what it holds. -/
structure Archive.Stored (ref : StoreRef) (path : String) (mappings : List (String × String))
    (a : Archive) : Prop where
  made : ref < a.stores.next
  kept : ∀ x, a.stores.get? ref = some x →
    x.path = path ∧ x.mappings = mappings ∧ a.disk.readStore path = .ok x.contents

namespace Archive.Stored

variable {path : String} {mappings : List (String × String)} {a a' : Archive}

theorem retains (h : Stored ref path mappings a) (h' : Retains a a') :
  Stored ref path mappings a'
  := by
  refine ⟨Nat.lt_of_lt_of_le h.made h'.next, ?_⟩
  intro x' hx'
  obtain ⟨x, hx, hsame⟩ := h'.stores ref x' h.made hx'
  rw [hsame.path, hsame.mappings, hsame.contents, h'.disk]
  exact h.kept x hx

/-- What is changed in the contents is written to the document. -/
theorem changeContents (h : Stored ref path mappings a) (f : StoreContents → StoreContents) :
  Stored ref path mappings (a.changeContents ref f)
  := by
  rw [Archive.changeContents]
  split
  case h_1 => exact h
  case h_2 x hx =>
      obtain ⟨rfl, rfl, hread⟩ := h.kept x hx
      refine ⟨Nat.lt_of_lt_of_eq h.made (a.stores.next_modify ref _).symm, ?_⟩
      intro y hy
      have hmodified := Table.get?_modify (t := a.stores) ref ref
        fun s => { s with contents := f x.contents }
      rw [if_pos rfl, hx] at hmodified
      obtain rfl := Option.some.inj (hmodified.symm.trans hy)
      exact ⟨rfl, rfl, Disk.readStore_writeStore hread (f x.contents)⟩

theorem discardUnit (h : Stored ref path mappings a) (octets : Octets) :
  Stored ref path mappings (Archive.discardUnit ref octets a).2
  := by
  simp only [Archive.discardUnit]
  split
  · exact h
  · split
    · exact h
    · exact h.changeContents fun c => c.discardUnit (Text.decode octets)

end Archive.Stored

open Archive (Stored)

/-- The disk is changed in no other way than through the store of a reference. -/
def Deed.WritesThrough (ref : StoreRef) : Deed → Prop
  | changeDisk _ => False
  | onStore store deed => store = ref ∨ deed.writes = false
  | _ => True

namespace Archive.Stored

variable {path : String} {mappings : List (String × String)}

theorem act {e : EventStore Archive} (honest : e.store.library.Honest)
    (h : Stored e.store.ref path mappings s.2) (deed : StoreDeed) :
  Stored e.store.ref path mappings (deed.act e s).2.2
  := by
  have hbackend : e.store.library.backend = Archive.backend := honest
  cases hwrites : deed.writes with
  | false => exact h.retains (StoreDeed.act_retains honest hwrites s)
  | true =>
      cases deed with
      | discardUnit unit =>
          rw [StoreDeed.act, archive_useDesk, EventStore.discardUnit, Access.terminated]
          cases Text.terminated? unit with
          | none => exact h
          | some octets =>
              simp only [bind, Access.bind, Access.pure, Access.change, EventStore.calling,
                hbackend]
              exact h.discardUnit octets
      | discardRecord record =>
          rw [StoreDeed.act, archive_use, Store.discardRecord, Access.terminated]
          cases Text.terminated? record with
          | none => exact h
          | some octets =>
              simp only [bind, Access.bind, Access.pure, Access.change, hbackend]
              exact h.changeContents fun c => c.discardRecord (Text.decode octets)
      | purge =>
          rw [StoreDeed.act, archive_use, Store.purge, hbackend]
          exact h.changeContents StoreContents.purge
      | _ => cases hwrites

/-- A stored store stays so under an operation that goes through it, or that writes nothing. -/
theorem run (h : Stored ref path mappings s.2) (hs : s.Sound) {deed : Deed}
    (hdeed : deed.WritesThrough ref) :
  Stored ref path mappings (deed.run s).2.2
  := by
  by_cases hwrites : deed.writes = false
  · exact h.retains (deed.run_retains hs hwrites)
  · cases deed with
    | changeDisk f => cases hdeed
    | onStore store deed =>
        obtain rfl : store = ref := hdeed.resolve_right hwrites
        cases he : s.1.store? store with
        | none =>
            rw [Deed.run_onStore_of_none he]
            exact h
        | some e =>
            obtain ⟨rfl, -, honest, -⟩ := hs.store_held he
            rw [Deed.run_onStore he]
            exact act (s := (s.1.note _, s.2)) honest h deed
    | _ => exact absurd rfl hwrites

end Archive.Stored

/-- A store stays stored, whatever else a client does. -/
theorem Scene.Goes.stored {path : String} {mappings : List (String × String)}
    (h : s.Goes (fun _ => Deed.WritesThrough ref) s') (hs : s.Sound) (hattached : s.Attached)
    (hstored : Stored ref path mappings s.2) :
  s'.Sound ∧ s'.Attached ∧ Stored ref path mappings s'.2
  := by
  apply h.keeps_of_aside
  · exact fun x y haside hx => hx.retains haside.archive.retains
  · exact fun x deed hdeed hx _ hstored => hstored.run hx hdeed
  · exact hs
  · exact hattached
  · exact hstored

end SymbolIndex
