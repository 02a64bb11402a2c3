import SymbolIndex.Proofs.Accounts.Programs

/-!
# Conservation of handles

At every point of every program the counts of a directory say what is open there: what has been
created and not been disposed of is held by the client, no error object is left, and a handler
that has been installed and not been finalized is the handler of an open store. So everything is
balanced where nothing is open, and only there.
-/

namespace SymbolIndex

open Archive

variable {β γ : Type} {s : Scene} {d : Path}

namespace Holdings

def storesAt (h : Holdings) (d : Path) : List (EventStore Archive) :=
  h.stores.filter fun e => e.store.directory = d

def recordsAt (h : Holdings) (d : Path) : List (RecordReader Archive) :=
  h.records.filter fun r => r.store.directory = d

def unitsAt (h : Holdings) (d : Path) : List (UnitReader Archive) :=
  h.units.filter fun u => u.store.directory = d

/-- How many objects of a kind are held of a directory. -/
def heldAt (h : Holdings) (d : Path) : ObjectKind → Nat
  | .store => (h.storesAt d).length
  | .record => (h.recordsAt d).length
  | .unit => (h.unitsAt d).length
  | .error => 0

theorem openOn_held (h : Holdings) (k : ObjectKind) (d : Path) :
  h.held.openOn k d = h.heldAt d k
  := by
  cases k with
  | store | record | unit =>
      rw [Rolls.openOn, held, List.countP_map, List.countP_eq_length_filter]
      rfl
  | error => rfl

/-- The number of handlers that have been installed on stores of a directory. -/
def installedAt (h : Holdings) (d : Path) : Nat := h.uses.count ⟨d, true⟩

end Holdings

namespace Archive

/-- The open store has a handler. -/
def hasHandler (a : Archive) (ref : StoreRef) : Bool :=
  (a.stores.get? ref).any fun s => s.handler.isSome

/-- Something is still to be delivered to a handler of the open store. -/
def delivering (a : Archive) (ref : StoreRef) : Bool :=
  (a.stores.get? ref).any fun s => s.pending.isSome

end Archive

namespace Scene

theorem start_sound (disk : Disk) :
  (start disk).Sound
  := by
  constructor
  · constructor
    · constructor
      · intro k e he
        cases k <;> cases he
      · intro k
        cases k <;> simp [start, books, rolls, Table.roll]
      · intro d k
        cases k <;> rfl
    · intro s hs
      cases hs
  · funext k
    cases k <;> rfl
  · intro d
    rfl
  · constructor
    all_goals
      intro x hx
      cases hx

/-! ### What the books say of what is held -/

/-- What has been created of a kind and not been disposed of is held. -/
theorem Sound.open_held (hs : s.Sound) (d : Path) (k : ObjectKind) :
  ((s.2.ledger.tally d).count k).created
    = ((s.2.ledger.tally d).count k).disposed + s.1.heldAt d k
  := by
  have hagrees := hs.archive.books.agrees d k
  have hrolls : s.2.books.rolls = s.1.held := hs.held
  rw [hrolls, Holdings.openOn_held] at hagrees
  exact hagrees

theorem Sound.balanced_iff (hs : s.Sound) (d : Path) :
  (s.2.ledger.tally d).balanced = true
    ↔ s.1.storesAt d = [] ∧ s.1.recordsAt d = [] ∧ s.1.unitsAt d = []
  := by
  rw [Tally.balanced_iff]
  constructor
  · intro h
    have hnone : ∀ k, s.1.heldAt d k = 0 := by
      intro k
      have hheld := hs.open_held d k
      rw [h k] at hheld
      omega
    exact ⟨List.length_eq_zero_iff.mp (hnone .store), List.length_eq_zero_iff.mp (hnone .record),
      List.length_eq_zero_iff.mp (hnone .unit)⟩
  · rintro ⟨hstores, hrecords, hunits⟩ k
    rw [hs.open_held d k]
    cases k <;> simp [Holdings.heldAt, hstores, hrecords, hunits]

/-- What is kept for a directory when nothing is still to be delivered there. -/
theorem Sound.kept_handlers (hs : s.Sound)
    (hsettled : ∀ e ∈ s.1.storesAt d, s.2.delivering e.store.ref = false) :
  s.2.stores.total (fun x => if x.directory = d then x.kept else 0)
    = ((s.1.storesAt d).filter fun e => s.2.hasHandler e.store.ref).length
  := by
  -- A store in which nothing is pending keeps one handler or none, so the sum is a count.
  let keeps : Nat × Path → Bool := fun e => e.2 = d ∧ s.2.hasHandler e.1
  have hheld : s.2.stores.roll ArchiveStore.directory = s.1.held .store := congrFun hs.held .store
  have hentries : ∀ e ∈ s.2.stores.entries,
      (if e.2.directory = d then e.2.kept else 0) = (keeps (e.1, e.2.directory)).toNat := by
    rintro ⟨ref, x⟩ hx
    have hfound := hs.archive.storeTable.get?_of_mem hx
    by_cases hd : x.directory = d
    · have hroll : (ref, x.directory) ∈ s.1.held .store := by
        rw [← hheld]
        exact List.mem_map_of_mem (f := fun e => (e.1, e.2.directory)) hx
      obtain ⟨e, he, heq⟩ := List.mem_map.mp hroll
      obtain ⟨rfl, hdirectory⟩ := Prod.mk.inj heq
      have hdelivering := hsettled e (List.mem_filter.mpr ⟨he, by simpa using hdirectory.trans hd⟩)
      have hpending : x.pending = none := by
        simpa [Archive.delivering, hfound] using hdelivering
      rw [ArchiveStore.kept_of_settled hpending]
      cases hhandler : x.handler <;> simp [keeps, hd, hasHandler, hfound, hhandler]
    · simp [keeps, hd]
  have htotal : s.2.stores.total (fun x => if x.directory = d then x.kept else 0)
      = (s.1.held .store).countP keeps := by
    rw [← hheld]
    exact Table.total_of_indicator hentries
  rw [htotal, Holdings.held, List.countP_map, List.countP_eq_length_filter, Holdings.storesAt,
    List.filter_filter]
  congr 2
  funext e
  simp [keeps, Bool.and_comm]

end Scene

/-- What the counts of a directory say of what is held of it. -/
structure Scene.Conserved (s : Scene) (d : Path) : Prop where
  stores : (s.2.ledger.tally d).stores.created
    = (s.2.ledger.tally d).stores.disposed + (s.1.storesAt d).length
  records : (s.2.ledger.tally d).recordReaders.created
    = (s.2.ledger.tally d).recordReaders.disposed + (s.1.recordsAt d).length
  units : (s.2.ledger.tally d).unitReaders.created
    = (s.2.ledger.tally d).unitReaders.disposed + (s.1.unitsAt d).length
  errors : (s.2.ledger.tally d).errors.created = (s.2.ledger.tally d).errors.disposed
  /-- When nothing is still to be delivered, the open stores keep the handlers that they have. -/
  handlers : (∀ e ∈ s.1.storesAt d, s.2.delivering e.store.ref = false) →
    (s.2.ledger.tally d).handlersFinalized
      + ((s.1.storesAt d).filter fun e => s.2.hasHandler e.store.ref).length
      = s.1.installedAt d
  balanced : (s.2.ledger.tally d).balanced = true
    ↔ s.1.storesAt d = [] ∧ s.1.recordsAt d = [] ∧ s.1.unitsAt d = []
  finalized : s.1.storesAt d = [] →
    (s.2.ledger.tally d).handlersFinalized = s.1.installedAt d

theorem Scene.Sound.conserved (hs : s.Sound) (d : Path) :
  s.Conserved d
  := by
  have hhandlers : (∀ e ∈ s.1.storesAt d, s.2.delivering e.store.ref = false) →
      (s.2.ledger.tally d).handlersFinalized
        + ((s.1.storesAt d).filter fun e => s.2.hasHandler e.store.ref).length
        = s.1.installedAt d := by
    intro hsettled
    rw [← hs.kept_handlers hsettled]
    exact hs.handlers d
  constructor
  · exact hs.open_held d .store
  · exact hs.open_held d .record
  · exact hs.open_held d .unit
  · exact hs.open_held d .error
  · exact hhandlers
  · exact hs.balanced_iff d
  · intro hclosed
    have hfinalized := hhandlers (by simp [hclosed])
    simpa [hclosed] using hfinalized

/-- At every point of every program the counts of each directory say what is held of it, and from
one point to a later one they change only for the directories that are used in between. -/
theorem Program.handles_conserved {p : Program β} {q : Program γ} {disk : Disk} {x y : Scene}
    (hx : p.Reaches (Scene.start disk) x) (hy : q.Reaches x y) :
  (∀ d, y.Conserved d)
    ∧ ∃ uses, y.1.uses = x.1.uses ++ uses
      ∧ ∀ d, (∀ u ∈ uses, u.directory ≠ d) → y.2.ledger.tally d = x.2.ledger.tally d
  := by
  obtain ⟨hsound, -⟩ := hx.leads (Scene.start_sound disk)
  obtain ⟨hsound', helsewhere⟩ := hy.leads hsound
  exact ⟨hsound'.conserved, helsewhere⟩

/-- A store is opened, and then it has a subscriber. -/
theorem Program.handles_conserved_subscribed :
  ((Program.deed (.onStore 0 .subscribe)).run
    ((Program.deed (.openStore (.ofArchive .closure) "stores" none)).run
      (Scene.start (.holding "stores" (some "\x7b\x7d")))).2).2.Conserved ["stores"]
  := (handles_conserved (reaches_end _ _) (reaches_end _ _)).1 ["stores"]

end SymbolIndex
