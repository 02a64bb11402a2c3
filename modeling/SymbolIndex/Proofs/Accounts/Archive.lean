import SymbolIndex.Archive.Stores
import SymbolIndex.Proofs.Accounts.Books

/-!
# The books of an archive

The tables and the ledger of an archive are books. Beside them stand the event handlers. A store
keeps its handler, and the one that it had when listening began as long as the first notification
is still to be delivered to it; every other handler that has been installed on a store of a
directory is counted as finalized there.
-/

namespace SymbolIndex

/-! ### Handlers of one store -/

namespace ArchiveStore

/-- The number of handlers that have been replaced and still get the first notification. -/
def replaced (s : ArchiveStore) : Nat :=
  match s.pending with
  | none => 0
  | some (h, _) => if s.handler = some h then 0 else 1

/-- The number of handlers that the store keeps. -/
def kept (s : ArchiveStore) : Nat := s.handler.toList.length + s.replaced

/-- The handlers have been handed out, and a notification is left to the background only while the
store listens. -/
structure Orderly (handedOut : Nat) (s : ArchiveStore) : Prop where
  handler : ∀ h ∈ s.handler, h < handedOut
  pending : ∀ p ∈ s.pending, s.listening = true ∧ p.1 < handedOut

end ArchiveStore

/-- The number of handlers that are let go of. -/
def HandlerCall.releases (calls : List HandlerCall) : Nat := calls.countP HandlerCall.isRelease

open HandlerCall (releases)

namespace ArchiveStore

variable {s : ArchiveStore} {handedOut : Nat}

theorem kept_of_settled (h : s.pending = none) :
  s.kept = s.handler.toList.length
  := by
  simp [kept, replaced, h]

/-- A handler that was only kept for the first notification is let go of. -/
theorem releases_deliverPending (s : ArchiveStore) :
  releases s.deliverPending.1 + s.deliverPending.2.kept = s.kept
  := by
  rcases hp : s.pending with _ | ⟨h, n⟩
  · simp [deliverPending, hp, releases]
  · by_cases hh : s.handler = some h
    · simp [deliverPending, hp, hh, releases, HandlerCall.isRelease, kept, replaced]
    · simp [deliverPending, hp, hh, releases, HandlerCall.isRelease, kept, replaced]
      apply Nat.add_comm

@[simp]
theorem pending_deliverPending (s : ArchiveStore) :
  s.deliverPending.2.pending = none
  := by
  cases hp : s.pending <;> simp [deliverPending, hp]

@[simp]
theorem handler_deliverPending (s : ArchiveStore) :
  s.deliverPending.2.handler = s.handler
  := by
  cases hp : s.pending <;> simp [deliverPending, hp]

@[simp]
theorem path_deliverPending (s : ArchiveStore) :
  s.deliverPending.2.path = s.path
  := by
  cases hp : s.pending <;> simp [deliverPending, hp]

theorem Orderly.deliverPending (hs : s.Orderly handedOut) :
  s.deliverPending.2.Orderly handedOut
  := by
  constructor
  · rw [handler_deliverPending]
    exact hs.handler
  · simp

theorem releases_stopListening (s : ArchiveStore) :
  releases s.stopListening.1 + s.stopListening.2.kept = s.kept
  := releases_deliverPending _

theorem Orderly.stopListening (hs : s.Orderly handedOut) :
  s.stopListening.2.Orderly handedOut
  := by
  constructor
  · rw [ArchiveStore.stopListening, handler_deliverPending]
    exact hs.handler
  · simp [ArchiveStore.stopListening]

/-- A new handler is kept, and the one before it is let go of unless it is still to be called. -/
theorem releases_setHandler {h : HandlerRef} (fresh : ∀ p ∈ s.pending, p.1 ≠ h) :
  releases (s.setHandler h).1 + (s.setHandler h).2.kept = s.kept + 1
  := by
  rcases hp : s.pending with _ | ⟨h', n⟩
  · cases hh : s.handler <;>
      simp [setHandler, releaseHandler, hp, hh, releases, HandlerCall.isRelease, kept, replaced]
  · have hne : h' ≠ h := fresh (h', n) hp
    rcases hh : s.handler with _ | g
    · simp [setHandler, releaseHandler, hp, hh, releases, kept, replaced, hne.symm]
    · by_cases hg : h' = g
      · subst hg
        simp [setHandler, releaseHandler, hp, hh, releases, kept, replaced, hne.symm]
      · simp [setHandler, releaseHandler, hp, hh, hg, Ne.symm hg, releases,
          HandlerCall.isRelease, kept, replaced, hne.symm]

theorem Orderly.setHandler (hs : s.Orderly handedOut) :
  (s.setHandler handedOut).2.Orderly (handedOut + 1)
  := by
  constructor
  · simp [ArchiveStore.setHandler]
  · intro p hp
    have hpending := hs.pending p hp
    exact ⟨hpending.1, Nat.lt_succ_of_lt hpending.2⟩

theorem Orderly.mono (hs : s.Orderly handedOut) {later : Nat} (h : handedOut ≤ later) :
  s.Orderly later
  := by
  constructor
  · intro g hg
    exact Nat.lt_of_lt_of_le (hs.handler g hg) h
  · intro p hp
    exact ⟨(hs.pending p hp).1, Nat.lt_of_lt_of_le (hs.pending p hp).2 h⟩

/-- A store that is closed lets go of all handlers that it has kept. -/
theorem releases_close (s : ArchiveStore) :
  releases s.close = s.kept
  := by
  have hstop := s.releases_stopListening
  have hsettled : s.stopListening.2.pending = none := by simp [stopListening]
  have hlast : releases s.stopListening.2.releaseHandler = s.stopListening.2.kept := by
    rw [kept_of_settled hsettled]
    cases hh : s.stopListening.2.handler <;>
      simp [releaseHandler, hh, hsettled, releases, HandlerCall.isRelease]
  rw [← hstop, ← hlast]
  apply List.countP_append

end ArchiveStore

/-! ### Books and handlers of an archive -/

/-- The use of a directory, with or without a handler that is installed on a store there. -/
structure Use where
  directory : Path
  installs : Bool := false
deriving DecidableEq

namespace Archive

def next (a : Archive) : ObjectKind → Nat
  | .store => a.stores.next
  | .record => a.records.next
  | .unit => a.units.next
  | .error => a.errors.next

/-- What is open, with the directories for which it is counted. -/
def rolls (a : Archive) : Rolls
  | .store => a.stores.roll ArchiveStore.directory
  | .record => a.records.roll ArchiveRecord.directory
  | .unit => a.units.roll ArchiveUnit.directory
  | .error => a.errors.roll ArchiveError.directory

def books (a : Archive) : Books where
  next := a.next
  rolls := a.rolls
  count d := (a.ledger.tally d).count

/-- The handlers of a directory that have been finalized or are kept. -/
def handlersAt (a : Archive) (d : Path) : Nat :=
  (a.ledger.tally d).handlersFinalized
    + a.stores.total fun s => if s.directory = d then s.kept else 0

/-- The books are sound, and so is what the stores say of their handlers. -/
structure Sound (handedOut : Nat) (a : Archive) : Prop where
  books : a.books.Sound
  stores : ∀ s ∈ a.stores.values, s.Orderly handedOut

/-- What a use of a directory does. It keeps the archive sound and comes to certain rolls. The
handlers are finalized or kept as before, with a new one if one is installed, and nothing changes
what is counted elsewhere. -/
structure Follows (handedOut : Nat) (u : Use) (r : Rolls) (a a' : Archive) : Prop where
  sound : a'.Sound handedOut
  rolls : a'.rolls = r
  handlers : ∀ d, a'.handlersAt d = a.handlersAt d + if u = ⟨d, true⟩ then 1 else 0
  elsewhere : ∀ d, d ≠ u.directory → a'.ledger.tally d = a.ledger.tally d

/-- What a use of a directory does that neither opens nor closes anything and installs no
handler. -/
def Quiet (handedOut : Nat) (directory : Path) (a a' : Archive) : Prop :=
  a.Sound handedOut → Follows handedOut ⟨directory, false⟩ a.rolls a a'

variable {a a' a'' : Archive} {handedOut : Nat} {directory : Path} {r r' : Rolls}

theorem Sound.storeTable (ha : a.Sound handedOut) :
  a.stores.Sound
  := Table.sound_of_roll (ha.books.fresh .store) (ha.books.distinct .store)

theorem Sound.errorTable (ha : a.Sound handedOut) :
  a.errors.Sound
  := Table.sound_of_roll (ha.books.fresh .error) (ha.books.distinct .error)

theorem Sound.orderly (ha : a.Sound handedOut) {ref : StoreRef} {s : ArchiveStore}
    (h : a.stores.get? ref = some s) :
  s.Orderly handedOut
  := by
  apply ha.stores
  exact List.mem_map_of_mem (f := Prod.snd) (Table.get?_mem h)

theorem Follows.trans (h : Follows handedOut ⟨directory, false⟩ r a a')
    (h' : Follows handedOut ⟨directory, false⟩ r' a' a'') :
  Follows handedOut ⟨directory, false⟩ r' a a''
  := by
  constructor
  · exact h'.sound
  · exact h'.rolls
  · intro d
    rw [h'.handlers, h.handlers]
    simp
  · intro d hd
    rw [h'.elsewhere d hd, h.elsewhere d hd]

theorem Quiet.refl (a : Archive) :
  Quiet handedOut directory a a
  := by
  intro ha
  exact ⟨ha, rfl, by simp, by simp⟩

theorem Quiet.trans (h : Quiet handedOut directory a a') (h' : Quiet handedOut directory a' a'') :
  Quiet handedOut directory a a''
  := by
  intro ha
  have hfirst := h ha
  have hsecond := h' hfirst.sound
  rw [hfirst.rolls] at hsecond
  exact hfirst.trans hsecond

/-! ### Entries in the ledger -/

theorem tally_enter (l : Ledger) (f : Tally → Tally) {d : Path} (hd : d ≠ directory) :
  (l.enter directory f).tally d = l.tally d
  := by
  simp [Ledger.enter, hd]

/-- An entry for one kind of objects. -/
theorem count_enter {f : Tally → Tally} {k : ObjectKind} {g : Count → Count}
    (hf : ∀ t j, (f t).count j = if j = k then g (t.count j) else t.count j) (l : Ledger)
    (d : Path) (j : ObjectKind) :
  ((l.enter directory f).tally d).count j
    = if d = directory ∧ j = k then g ((l.tally d).count j) else (l.tally d).count j
  := by
  by_cases hd : d = directory
  · simp [Ledger.enter, hd, hf]
  · simp [Ledger.enter, hd]

/-- An entry that touches neither the stores nor their handlers. -/
theorem handlersAt_entered {f : Tally → Tally} (hstores : a'.stores = a.stores)
    (hledger : a'.ledger = a.ledger.enter directory f)
    (hf : ∀ t, (f t).handlersFinalized = t.handlersFinalized) (d : Path) :
  a'.handlersAt d = a.handlersAt d
  := by
  by_cases hd : d = directory
  · simp [handlersAt, hledger, hstores, Ledger.enter, hd, hf]
  · simp [handlersAt, hledger, hstores, Ledger.enter, hd]

/-- The creation of an object that is entered for its directory. -/
theorem Sound.follows_create (ha : a.Sound handedOut) {k : ObjectKind} {f : Tally → Tally}
    (hf : ∀ t j, (f t).count j = if j = k then (t.count j).create else t.count j)
    (hledger : a'.ledger = a.ledger.enter directory f)
    (hnext : a'.next = Function.update a.next k (a.next k + 1))
    (hrolls : a'.rolls = a.rolls.add k (a.next k) directory)
    (hstores : ∀ s ∈ a'.stores.values, s.Orderly handedOut)
    (hhandlers : ∀ d, a'.handlersAt d = a.handlersAt d) :
  Follows handedOut ⟨directory, false⟩ (a.rolls.add k (a.next k) directory) a a'
  := by
  -- The archive does in its own tables what the books do, so their invariant is that of the books.
  have hbooks : a'.books = a.books.create k directory := by
    simp only [Archive.books, Books.create, Books.enter, hledger, hnext, hrolls, Books.mk.injEq,
      true_and]
    funext d j
    apply count_enter hf
  constructor
  · exact ⟨hbooks ▸ ha.books.create k directory, hstores⟩
  · exact hrolls
  · simp [hhandlers]
  · intro d hd
    rw [hledger, tally_enter _ _ hd]

/-- The disposal of an object that is entered for its directory. -/
theorem Sound.follows_dispose (ha : a.Sound handedOut) {k : ObjectKind} {ref : Nat}
    {f : Tally → Tally}
    (hopen : (a.rolls k).find? (fun e => e.1 == ref) = some (ref, directory))
    (hf : ∀ t j, (f t).count j = if j = k then (t.count j).dispose else t.count j)
    (hledger : a'.ledger = a.ledger.enter directory f)
    (hnext : a'.next = a.next) (hrolls : a'.rolls = a.rolls.remove k ref)
    (hstores : ∀ s ∈ a'.stores.values, s.Orderly handedOut)
    (hhandlers : ∀ d, a'.handlersAt d = a.handlersAt d) :
  Follows handedOut ⟨directory, false⟩ (a.rolls.remove k ref) a a'
  := by
  have hbooks : a'.books = a.books.dispose k ref directory := by
    simp only [Archive.books, Books.dispose, Books.enter, hledger, hnext, hrolls, Books.mk.injEq,
      true_and]
    funext d j
    apply count_enter hf
  constructor
  · exact ⟨hbooks ▸ ha.books.dispose hopen, hstores⟩
  · exact hrolls
  · simp [hhandlers]
  · intro d hd
    rw [hledger, tally_enter _ _ hd]

/-- The creation of an object that is no store. -/
theorem Sound.follows_create_beside (ha : a.Sound handedOut) (k : ObjectKind)
    (hstores : a'.stores = a.stores)
    (hledger : a'.ledger = a.ledger.enter directory (Tally.change k Count.create))
    (hnext : a'.next = Function.update a.next k (a.next k + 1))
    (hrolls : a'.rolls = a.rolls.add k (a.next k) directory) :
  Follows handedOut ⟨directory, false⟩ (a.rolls.add k (a.next k) directory) a a'
  := by
  apply ha.follows_create (Tally.count_change k Count.create) hledger hnext hrolls
  · rw [hstores]
    exact ha.stores
  · exact handlersAt_entered hstores hledger (Tally.handlersFinalized_change k Count.create)

/-- The disposal of an object that is no store. -/
theorem Sound.follows_dispose_beside (ha : a.Sound handedOut) (k : ObjectKind) {ref : Nat}
    (hstores : a'.stores = a.stores)
    (hledger : a'.ledger = a.ledger.enter directory (Tally.change k Count.dispose))
    (hnext : a'.next = a.next)
    (hopen : (a.rolls k).find? (fun e => e.1 == ref) = some (ref, directory))
    (hrolls : a'.rolls = a.rolls.remove k ref) :
  Follows handedOut ⟨directory, false⟩ (a.rolls.remove k ref) a a'
  := by
  apply ha.follows_dispose hopen (Tally.count_change k Count.dispose) hledger hnext hrolls
  · rw [hstores]
    exact ha.stores
  · exact handlersAt_entered hstores hledger (Tally.handlersFinalized_change k Count.dispose)

/-- A change of one open store, in which some handlers are let go of and one may be installed. -/
theorem Sound.follows_modify (ha : a.Sound handedOut) {ref : StoreRef} {s : ArchiveStore}
    {g : ArchiveStore → ArchiveStore} {later n : Nat} {installs : Bool}
    (h : a.stores.get? ref = some s) (hstores : a'.stores = a.stores.modify ref g)
    (hrecords : a'.records = a.records) (hunits : a'.units = a.units)
    (herrors : a'.errors = a.errors)
    (hledger : ∀ d, a'.ledger.tally d = if d = s.directory then
      { a.ledger.tally d with handlersFinalized := (a.ledger.tally d).handlersFinalized + n }
      else a.ledger.tally d)
    (hpath : (g s).path = s.path) (hlater : handedOut ≤ later) (horderly : (g s).Orderly later)
    (hkept : n + (g s).kept = s.kept + if installs then 1 else 0) :
  Follows later ⟨s.directory, installs⟩ a.rolls a a'
  := by
  have hroll : (a.stores.modify ref g).roll ArchiveStore.directory
      = a.stores.roll ArchiveStore.directory := by
    apply ha.storeTable.roll_modify
    intro s₁ hs₁
    obtain rfl : s = s₁ := by simpa [h] using hs₁
    simp only [ArchiveStore.directory, hpath]
  have hrolls : a'.rolls = a.rolls := by
    funext k
    cases k <;> simp only [Archive.rolls, hstores, hrecords, hunits, herrors, hroll]
  have hnext : a'.next = a.next := by
    funext k
    cases k <;> simp only [Archive.next, hstores, hrecords, hunits, herrors, Table.next_modify]
  have hcount : ∀ d, (a'.ledger.tally d).count = (a.ledger.tally d).count := by
    intro d
    rw [hledger]
    split
    · funext k
      cases k <;> rfl
    · rfl
  constructor
  · constructor
    · have hbooks : a'.books = a.books := by
        simp only [Archive.books, hnext, hrolls, hcount]
      exact hbooks ▸ ha.books
    · intro s₁ hs₁
      rw [hstores] at hs₁
      obtain ⟨e, he, rfl⟩ := List.mem_map.mp hs₁
      obtain ⟨⟨r, s₀⟩, he₀, rfl⟩ := List.mem_map.mp he
      by_cases hr : r = ref
      · subst hr
        have hs₀ := ha.storeTable.get?_of_mem he₀
        obtain rfl : s = s₀ := by simpa [h] using hs₀
        simpa using horderly
      · simp only [if_neg hr]
        exact (ha.stores s₀ (List.mem_map_of_mem (f := Prod.snd) he₀)).mono hlater
  · exact hrolls
  · intro d
    have htotal := ha.storeTable.total_modify
      (fun s => if s.directory = d then s.kept else 0) g h
    have hdirectory : (g s).directory = s.directory := by
      simp only [ArchiveStore.directory, hpath]
    simp only [handlersAt, hledger, hstores]
    by_cases hd : d = s.directory
    · subst hd
      simp only [hdirectory, ↓reduceIte, Use.mk.injEq, true_and] at htotal ⊢
      omega
    · simp only [hdirectory, Ne.symm hd, hd, ↓reduceIte, Use.mk.injEq, false_and] at htotal ⊢
      omega
  · intro d hd
    rw [hledger, if_neg hd]

end Archive

end SymbolIndex
