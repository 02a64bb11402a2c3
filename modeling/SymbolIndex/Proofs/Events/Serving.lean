import SymbolIndex.Proofs.Contents.Units
import SymbolIndex.Proofs.Events.Still

/-!
# What an operation does with one open store

An operation on a store that neither closes the store nor replaces its handler changes that store
alone, and has the event desk make some calls. Each operation comes with the change and the calls.
-/

namespace SymbolIndex

open Text (Octets)

/-! ### Changes of one store -/

namespace Archive

/-- One store is changed, or stays as it is. -/
def With (ref : StoreRef) (x : ArchiveStore) (a a' : Archive) : Prop :=
  ∀ r, a'.stores.get? r = if r = ref then some x else a.stores.get? r

variable {a a' a'' : Archive} {ref : StoreRef} {x : ArchiveStore}

theorem With.still {x' : ArchiveStore} (h : With ref x' a a') (h' : Still a' a'') :
  With ref x' a a''
  := by
  intro r
  rw [h']
  apply h

theorem with_of_still (hx : a.stores.get? ref = some x) (h : Still a a') :
  With ref x a a'
  := by
  intro r
  rw [h]
  split
  case isTrue hr => rw [hr, hx]
  case isFalse => rfl

theorem with_of_modify (hx : a.stores.get? ref = some x) (g : ArchiveStore → ArchiveStore)
    (h : a'.stores = a.stores.modify ref g) :
  With ref (g x) a a'
  := by
  intro r
  rw [h, Table.get?_modify]
  split
  case isTrue hr => simp [hr, hx]
  case isFalse => rfl

theorem withStore_eq (hx : a.stores.get? ref = some x)
    (f : ArchiveStore → List HandlerCall × ArchiveStore) :
  (withStore ref f a).1 = (f x).1 ∧ With ref (f x).2 a (withStore ref f a).2
  := by
  simp only [withStore, hx]
  exact ⟨trivial, with_of_modify hx (fun _ => (f x).2) rfl⟩

theorem with_changeContents (hx : a.stores.get? ref = some x)
    (f : StoreContents → StoreContents) :
  With ref { x with contents := f x.contents } a (changeContents ref f a)
  := by
  simp only [changeContents, hx]
  exact with_of_modify hx (fun s => { s with contents := f x.contents }) rfl

end Archive

namespace ArchiveStore

/-- Without the units of a name. The handler is told if there are any and the store listens. -/
def discard (unit : String) (x : ArchiveStore) : List HandlerCall × ArchiveStore :=
  if unit ∈ x.contents.unitNames then
    (if x.listening then x.deliver (notification false .removed [unit]) else [],
      { x with contents := x.contents.discardUnit unit })
  else ([], x)

/-- Listens. The handler is told of all units at once, or will be. -/
def listen (wait : Bool) (x : ArchiveStore) : List HandlerCall × ArchiveStore :=
  let first := notification true .added x.contents.unitNames
  (if wait then x.deliver first else [],
    { x with
      listening := true
      pending := if wait then none else x.handler.map fun h => (h, first) })

end ArchiveStore

/-- What happens to a store that is held. -/
inductive Turn where
  /-- Nothing that concerns the handler. -/
  | rest
  | discarded (unit : String)
  | began (wait : Bool)
  | stopped
  | caughtUp

/-- What has happened when an operation has ended in some way. -/
def StoreDeed.turn : StoreDeed → Except Halt Unit → Turn
  | discardUnit unit, .ok _ => .discarded unit
  | start wait, .ok _ => .began wait
  | stop, _ => .stopped
  | background, _ => .caughtUp
  | _, _ => .rest

theorem StoreDeed.of_turn {d : StoreDeed} {result : Except Halt Unit} {r : Turn}
    (h : d.turn result = r) :
  match r with
  | .stopped => d = .stop
  | .began wait => d = .start wait ∧ result = .ok ()
  | .discarded unit => d = .discardUnit unit ∧ result = .ok ()
  | _ => True
  := by
  subst h
  cases d with
  | discardUnit unit | start wait => cases result <;> simp [turn]
  | _ => simp [turn]

namespace ArchiveStore

/-- The calls that a store makes, and the store after them. -/
def turn : Turn → ArchiveStore → List HandlerCall × ArchiveStore
  | .rest, x => ([], x)
  | .discarded unit, x => x.discard unit
  | .began wait, x => x.listen wait
  | .stopped, x => x.stopListening
  | .caughtUp, x => x.deliverPending

/-- The stores have the same units, and differ in nothing that concerns the handler. -/
structure Alike (x x' : ArchiveStore) : Prop where
  handler : x'.handler = x.handler
  listening : x'.listening = x.listening
  pending : x'.pending = x.pending
  units : x'.contents.unitNames = x.contents.unitNames

theorem Alike.refl (x : ArchiveStore) :
  Alike x x
  := ⟨rfl, rfl, rfl, rfl⟩

end ArchiveStore

namespace Archive

variable {a a' : Archive} {ref : StoreRef} {x : ArchiveStore}

theorem discardUnit_eq (hx : a.stores.get? ref = some x) (octets : Octets) :
  (discardUnit ref octets a).1 = (x.discard (Text.decode octets)).1
    ∧ With ref (x.discard (Text.decode octets)).2 a (discardUnit ref octets a).2
  := by
  simp only [discardUnit, hx, Option.isNone_iff_eq_none, StoreContents.unit?_eq_none,
    ArchiveStore.discard]
  by_cases h : Text.decode octets ∈ x.contents.unitNames
  · simp only [h, not_true_eq_false, ↓reduceIte, true_and]
    exact with_changeContents hx fun c => c.discardUnit (Text.decode octets)
  · simp only [h, not_false_eq_true, ↓reduceIte, true_and]
    exact with_of_still hx rfl

/-- Listening begins, or it is refused and nothing happens. -/
theorem startListening_eq (hx : a.stores.get? ref = some x) (wait : Bool) :
  let answer := (startListening ref wait a).1
  let a' := (startListening ref wait a).2
  (answer.started = true ∧ x.listening = false ∧ answer.calls = (x.listen wait).1
      ∧ With ref (x.listen wait).2 a a')
    ∨ answer.started = false ∧ answer.calls = [] ∧ With ref x a a'
  := by
  simp only [startListening, hx]
  split
  · exact .inr ⟨rfl, rfl, with_of_still hx rfl⟩
  · cases hlistening : x.listening with
    | true => exact .inr ⟨rfl, rfl, with_of_still hx rfl⟩
    | false =>
        have hwith : ∀ a' : Archive,
            a'.stores = (a.stores.modify ref fun _ => (x.listen wait).2) →
              With ref (x.listen wait).2 a a' :=
          fun a' h => with_of_modify hx (fun _ => (x.listen wait).2) h
        simp only [Bool.false_eq_true, ↓reduceIte]
        split
        · exact .inl ⟨rfl, trivial, rfl, hwith _ rfl⟩
        · exact .inl ⟨rfl, trivial, rfl, hwith _ rfl⟩

end Archive

/-! ### Operations -/

namespace Library

variable {σ α : Type} (l : Library σ)

theorem releaseError_ok (e : Option ErrorRef) (s : σ) :
  (l.releaseError e s).1 = .ok ()
  := by
  cases e <;> rfl

theorem failure_error (operation : String) (e : Option ErrorRef) (s : σ) :
  ∃ h, (l.failure operation e s : Except Halt α × σ).1 = .error h
  := by
  cases e with
  | none => exact ⟨_, rfl⟩
  | some e => exact ⟨_, rfl⟩

end Library

/-- Listening begins, or it is refused and nothing happens. -/
theorem EventStore.start_eq {e : EventStore Archive} {a : Archive} {x : ArchiveStore}
    (honest : e.store.library.Honest) (hx : a.stores.get? e.store.ref = some x) (wait : Bool)
    (desk : Desk) :
  let result := e.start wait (desk, a)
  (result.1 = .ok () ∧ x.listening = false ∧ result.2.1 = desk.process (x.listen wait).1
      ∧ Archive.With e.store.ref (x.listen wait).2 a result.2.2)
    ∨ (∃ h, result.1 = .error h) ∧ result.2.1 = desk ∧ Archive.With e.store.ref x a result.2.2
  := by
  have hbackend : e.store.library.backend = Archive.backend := honest
  simp only [start, hbackend, Archive.backend]
  rcases Archive.startListening_eq hx wait with
    ⟨hstarted, hlistening, hcalls, hwith⟩ | ⟨hstarted, hcalls, hwith⟩
  · rw [hstarted, hcalls]
    exact .inl ⟨Library.releaseError_ok _ _ _, hlistening, rfl,
      hwith.still (Archive.reads_aside.releaseError_within honest _ _).stores⟩
  · rw [hstarted, hcalls]
    exact .inr ⟨Library.failure_error _ _ _ _, rfl,
      hwith.still (Archive.reads_aside.failure_within honest _ _ _).stores⟩

/-- A new handler is installed. The store lets go of the one before it. -/
theorem EventStore.install_eq {e : EventStore Archive} {a : Archive} {x : ArchiveStore}
    (honest : e.store.library.Honest) (hx : a.stores.get? e.store.ref = some x) (sink : Sink)
    (desk : Desk) :
  let y := e.install sink (desk, a)
  y.1 = (desk.handler sink).2.process x.releaseHandler
    ∧ Archive.With e.store.ref { x with handler := some desk.handlers.next } a y.2
  := by
  have hbackend : e.store.library.backend = Archive.backend := honest
  obtain ⟨hcalls, hwith⟩ := Archive.withStore_eq hx (ArchiveStore.setHandler desk.handlers.next)
  simp only [install, calling, hbackend]
  exact ⟨congrArg (desk.handler sink).2.process hcalls, hwith⟩

namespace Scene

/-- An operation on a store that changes the store to another one and has the event desk make some
calls. -/
structure Serves (ref : StoreRef) (calls : List HandlerCall) (x : ArchiveStore) (s s' : Scene) :
    Prop where
  archive : Archive.With ref x s.2 s'.2
  desk : s'.1.desk = s.1.desk.process calls
  stores : s'.1.stores = s.1.stores
  taken : s'.1.taken = s.1.taken

variable {s : Scene} {ref : StoreRef} {e : EventStore Archive} {x : ArchiveStore}

/-- A store that is held is open, in a library that has the archive behind it. -/
theorem Sound.store_held (hs : s.Sound) (he : s.1.store? ref = some e) :
  e.store.ref = ref ∧ e ∈ s.1.stores ∧ e.store.library.Honest
    ∧ ∃ x, s.2.stores.get? ref = some x
  := by
  have href := Holdings.ref_of_store? he
  obtain ⟨hmem, hheld⟩ := Holdings.mem_of_store? he
  obtain ⟨x, hx, -⟩ := Archive.store_of_has (hs.held ▸ hheld)
  exact ⟨href, hmem, hs.honest.stores e hmem, x, href ▸ hx⟩

theorem serves_of_still {s' : Scene} (hx : s.2.stores.get? ref = some x) (h : Still s s') :
  Serves ref [] x s s'
  := ⟨Archive.with_of_still hx h.archive, h.desk, h.stores, h.taken⟩

/-- What is noted of an operation before it does not matter. -/
theorem Serves.of_note {calls : List HandlerCall} {x' : ArchiveStore} {u : Use} {s' : Scene}
    (h : Serves ref calls x' (s.1.note u, s.2) s') :
  Serves ref calls x' s s'
  := ⟨h.archive, h.desk, h.stores, h.taken⟩

end Scene

open Scene (Serves)

namespace StoreDeed

variable {s : Scene} {e : EventStore Archive} {x : ArchiveStore}

/-- The operation neither closes the store nor replaces its handler. -/
def turns : StoreDeed → Bool
  | setHandler _ | subscribe | close => false
  | _ => true

variable (honest : e.store.library.Honest) (hx : s.2.stores.get? e.store.ref = some x)

include honest hx

theorem discardUnit_serves (unit : String) :
  let t := (discardUnit unit).turn ((discardUnit unit).act e s).1
  Serves e.store.ref (x.turn t).1 (x.turn t).2 s ((discardUnit unit).act e s).2
  := by
  have hbackend : e.store.library.backend = Archive.backend := honest
  cases hunit : Text.terminated? unit with
  | none =>
      simp only [act, Scene.useDesk, EventStore.discardUnit, Access.terminated, hunit]
      exact Scene.serves_of_still hx ⟨rfl, rfl, rfl, rfl⟩
  | some octets =>
      obtain ⟨hcalls, hwith⟩ := Archive.discardUnit_eq hx octets
      rw [Text.decode_terminated hunit] at hcalls hwith
      simp only [act, Scene.useDesk, EventStore.discardUnit, Access.terminated, hunit]
      simp only [bind, Access.bind, Access.pure, Access.change, EventStore.calling, hbackend]
      exact ⟨hwith, congrArg s.1.desk.process hcalls, rfl, rfl⟩

theorem start_serves (wait : Bool) :
  let t := (start wait).turn ((start wait).act e s).1
  Serves e.store.ref (x.turn t).1 (x.turn t).2 s ((start wait).act e s).2
    ∧ ∀ wait', t = .began wait' → x.listening = false
  := by
  simp only [act, Scene.useDesk]
  rcases hresult : e.start wait (s.1.desk, s.2) with ⟨h | _, desk, a⟩
  all_goals
    have hstart := EventStore.start_eq honest hx wait s.1.desk
    simp only [hresult] at hstart
  · obtain ⟨hok, -⟩ | ⟨-, hdesk, hwith⟩ := hstart
    · cases hok
    · exact ⟨⟨hwith, hdesk, rfl, rfl⟩, fun _ hbegan => by cases hbegan⟩
  · obtain ⟨-, hlistening, hdesk, hwith⟩ | ⟨⟨_, herror⟩, -⟩ := hstart
    · exact ⟨⟨hwith, hdesk, rfl, rfl⟩, fun _ _ => hlistening⟩
    · cases herror

omit honest in
/-- An operation that leaves the units and everything about the handler as they are. -/
theorem changeContents_serves {f : StoreContents → StoreContents}
    (hf : ∀ c, (f c).unitNames = c.unitNames) {m : Access Archive Unit}
    (hm : m.Within fun a a' => Archive.Still a a' ∨ a' = Archive.changeContents e.store.ref f a) :
  ∃ x', x.Alike x' ∧ Serves e.store.ref [] x' s (Scene.use m (fun _ h => h) s).2
  := by
  have hstate : (Scene.use m (fun _ h => h) s).2 = (s.1, (m s.2).2) := by
    rw [Scene.use]
    rcases m s.2 with ⟨h | _, a⟩ <;> rfl
  rw [hstate]
  rcases hm s.2 with hstill | hchanged
  · exact ⟨x, .refl x, Archive.with_of_still hx hstill, rfl, rfl, rfl⟩
  · refine ⟨{ x with contents := f x.contents }, ⟨rfl, rfl, rfl, hf x.contents⟩, ?_, rfl, rfl, rfl⟩
    rw [hchanged]
    exact Archive.with_changeContents hx f

theorem discardRecord_serves (record : String) :
  ∃ x', x.Alike x' ∧ Serves e.store.ref [] x' s ((discardRecord record).act e s).2
  := by
  have hbackend : e.store.library.backend = Archive.backend := honest
  refine changeContents_serves hx (f := fun c => c.discardRecord record) (fun _ => rfl) ?_
  intro a
  cases hrecord : Text.terminated? record with
  | none =>
      left
      simp only [Store.discardRecord, Access.terminated, hrecord]
      rfl
  | some octets =>
      right
      have hdiscard : Archive.discardRecord e.store.ref octets a
          = Archive.changeContents e.store.ref (fun c => c.discardRecord record) a := by
        rw [Archive.discardRecord, Text.decode_terminated hrecord]
      rw [← hdiscard]
      simp only [Store.discardRecord, Access.terminated, hrecord, hbackend]
      rfl

omit honest in
/-- A change of the store that comes with calls. -/
theorem calling_serves (f : ArchiveStore → List HandlerCall × ArchiveStore) :
  Serves e.store.ref (f x).1 (f x).2 s
    (Scene.useDesk (.change (EventStore.calling (Archive.withStore e.store.ref f)))
      (fun _ h => h) s).2
  := by
  obtain ⟨hcalls, hwith⟩ := Archive.withStore_eq hx f
  exact ⟨hwith, congrArg s.1.desk.process hcalls, rfl, rfl⟩

/-- What an operation does with the store and its handler. -/
theorem act_serves {deed : StoreDeed} (h : deed.turns = true) :
  let t := deed.turn (deed.act e s).1
  (∃ x', (x.turn t).2.Alike x' ∧ Serves e.store.ref (x.turn t).1 x' s (deed.act e s).2)
    ∧ ∀ wait, t = .began wait → x.listening = false
  := by
  have hbackend : e.store.library.backend = Archive.backend := honest
  have hreads : ∀ deed : StoreDeed, deed.reads = true →
      ∃ x', x.Alike x' ∧ Serves e.store.ref [] x' s (deed.act e s).2 :=
    fun deed hdeed => ⟨x, .refl x, Scene.serves_of_still hx (act_aside honest hdeed s).still⟩
  cases deed with
  | unitNames sorted => exact ⟨hreads _ rfl, fun _ ht => by cases ht⟩
  | unitNamesFiltered includeSystem => exact ⟨hreads _ rfl, fun _ ht => by cases ht⟩
  | unitName outputPath => exact ⟨hreads _ rfl, fun _ ht => by cases ht⟩
  | unitTime unit => exact ⟨hreads _ rfl, fun _ ht => by cases ht⟩
  | openRecord record => exact ⟨hreads _ rfl, fun _ ht => by cases ht⟩
  | openUnit unit => exact ⟨hreads _ rfl, fun _ ht => by cases ht⟩
  | discardUnit unit =>
      refine ⟨⟨_, .refl _, discardUnit_serves honest hx unit⟩, fun wait ht => ?_⟩
      generalize ((discardUnit unit).act e s).1 = result at ht
      cases result <;> cases ht
  | discardRecord record =>
      exact ⟨discardRecord_serves honest hx record, fun _ ht => by cases ht⟩
  | purge =>
      refine ⟨changeContents_serves hx (f := StoreContents.purge) (fun _ => rfl) ?_,
        fun _ ht => by cases ht⟩
      intro a
      right
      rw [Store.purge, hbackend]
      rfl
  | start wait =>
      obtain ⟨hserves, hlistening⟩ := start_serves honest hx wait
      exact ⟨⟨_, .refl _, hserves⟩, hlistening⟩
  | stop =>
      have hserves := calling_serves (s := s) hx ArchiveStore.stopListening
      refine ⟨⟨_, .refl _, ?_⟩, fun _ ht => by cases ht⟩
      simp only [act, EventStore.stop, hbackend]
      exact hserves
  | background =>
      have hserves := calling_serves (s := s) hx ArchiveStore.deliverPending
      refine ⟨⟨_, .refl _, ?_⟩, fun _ ht => by cases ht⟩
      simp only [act, EventStore.background, hbackend]
      exact hserves
  | setHandler journal => cases h
  | subscribe => cases h
  | close => cases h

end StoreDeed

end SymbolIndex
