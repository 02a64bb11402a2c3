import SymbolIndex.Proofs.Events.Watching

/-!
# Stores that do not listen

A store that has ended listening tells nothing to anybody, whether its handler is replaced in the
meantime or not, until it begins to listen once more.
-/

namespace SymbolIndex

variable {s s' : Scene} {w : Watcher} {ref : StoreRef} {x : ArchiveStore}

/-- The store does not listen, and nothing is left to deliver. -/
def ArchiveStore.Silent (x : ArchiveStore) : Prop := x.listening = false ∧ x.pending = none

/-- If the store is open, it is silent. -/
def Scene.Silent (s : Scene) (ref : StoreRef) : Prop :=
  ∀ x, s.2.stores.get? ref = some x → x.Silent

namespace ArchiveStore

theorem Silent.turn (hx : x.Silent) {t : Turn} (ht : ∀ wait, t ≠ .began wait) :
  (x.turn t).1 = [] ∧ (x.turn t).2.Silent
  := by
  obtain ⟨hlistening, hpending⟩ := hx
  cases t with
  | rest => exact ⟨rfl, hlistening, hpending⟩
  | discarded unit =>
      simp only [ArchiveStore.turn, discard]
      split <;> simp [hlistening, Silent, hpending]
  | began wait => exact absurd rfl (ht wait)
  | stopped =>
      have hnone : (x.turn .stopped) = ([], { x with listening := false }) :=
        deliverPending_of_none hpending
      rw [hnone]
      exact ⟨rfl, rfl, hpending⟩
  | caughtUp =>
      have hnone : (x.turn .caughtUp) = ([], x) := deliverPending_of_none hpending
      rw [hnone]
      exact ⟨rfl, hlistening, hpending⟩

/-- A store that has ended listening is silent. -/
theorem silent_stopped (x : ArchiveStore) :
  (x.turn .stopped).2.Silent
  := by
  simp only [turn, stopListening, deliverPending]
  split
  case h_1 hpending => exact ⟨rfl, hpending⟩
  case h_2 => exact ⟨rfl, rfl⟩

theorem Alike.silent {x' : ArchiveStore} (h : x.Alike x') (hx : x.Silent) :
  x'.Silent
  := ⟨h.listening.trans hx.1, h.pending.trans hx.2⟩

theorem releases_releaseHandler (x : ArchiveStore) :
  ∀ c ∈ x.releaseHandler, ∃ g, c = .release g
  := by
  intro c hc
  rw [releaseHandler] at hc
  split at hc
  case h_1 => cases hc
  case h_2 g _ =>
      split at hc
      · cases hc
      · exact ⟨g, List.mem_singleton.mp hc⟩

end ArchiveStore

theorem Archive.With.silent {a : Archive} (h : With ref x s.2 a) (hx : x.Silent)
    (hstores : s'.2.stores = a.stores) :
  s'.Silent ref
  := by
  intro y hy
  rw [hstores, h, if_pos rfl] at hy
  obtain rfl := Option.some.inj hy
  exact hx

/-- Nothing has been told to the watcher, which stands, and the store is silent. -/
structure Scene.Hushed (w : Watcher) (ref : StoreRef) (s s' : Scene) : Prop where
  silent : s'.Silent ref
  stands : w.Stands s'.1.desk
  received : w.received s'.1 = w.received s.1

theorem Scene.Hushed.trans {s'' : Scene} (h : Hushed w ref s s') (h' : Hushed w ref s' s'') :
  Hushed w ref s s''
  := ⟨h'.silent, h'.stands, h'.received.trans h.received⟩

theorem Watcher.received_of_same {h h' : Holdings} (htaken : h'.taken = h.taken)
    (hwaiting : w.waiting h'.desk = w.waiting h.desk) :
  w.received h' = w.received h
  := by
  rw [received, received, htaken, hwaiting]

/-! ### Operations -/

namespace StoreDeed

variable {e : EventStore Archive} (honest : e.store.library.Honest)
  (hx : s.2.stores.get? e.store.ref = some x) (hsilent : x.Silent) (hw : w.Stands s.1.desk)

include honest hx hsilent hw

theorem setHandler_hushed (journal : Nat) :
  Scene.Hushed w e.store.ref s ((setHandler journal).act e s).2
  := by
  obtain ⟨hy, hwith⟩ := EventStore.install_eq honest hx (.journal journal) (s.1.desk.letGo e.feed)
  obtain ⟨hletGo, hwaiting⟩ := hw.letGo e.feed
  obtain ⟨hstands, hreleased⟩ :=
    hletGo.releases (.journal journal) x.releases_releaseHandler
  rw [← hy] at hstands hreleased
  exact ⟨hwith.silent hsilent rfl, hstands,
    Watcher.received_of_same rfl (hreleased.trans hwaiting)⟩

/-- A store that is given a feed replaces its handler. -/
theorem subscribe_hushed :
  Scene.Hushed w e.store.ref s (subscribe.act e s).2
  := by
  let y := e.ownFeed (s.1.desk, s.2)
  have hown : (∃ x', Archive.With e.store.ref x' s.2 y.2.2 ∧ x'.Silent)
      ∧ w.Stands y.2.1 ∧ w.waiting y.2.1 = w.waiting s.1.desk := by
    cases hfeed : e.feed with
    | some f =>
        simp only [y, EventStore.ownFeed, hfeed]
        exact ⟨⟨x, Archive.with_of_still hx rfl, hsilent⟩, hw, trivial⟩
    | none =>
        let f := s.1.desk.feed.1
        obtain ⟨hy, hwith⟩ := EventStore.install_eq honest hx (.feed f) s.1.desk.feed.2
        obtain ⟨hfeed', hwaiting⟩ := hw.feed
        obtain ⟨hstands, hreleased⟩ := hfeed'.releases (.feed f) x.releases_releaseHandler
        rw [← hy] at hstands hreleased
        simp only [y, EventStore.ownFeed, hfeed]
        exact ⟨⟨_, hwith, hsilent⟩, hstands, hreleased.trans hwaiting⟩
  obtain ⟨⟨x', hwith, hsilent'⟩, hstands, hwaiting⟩ := hown
  rw [act_subscribe]
  exact ⟨hwith.silent hsilent' rfl, hstands.subscribe _,
    Watcher.received_of_same rfl ((Watcher.waiting_subscribe hstands _).trans hwaiting)⟩

/-- Nothing is told by an operation that does not begin to listen. -/
theorem act_hushed {deed : StoreDeed} (hclose : deed ≠ .close)
    (hbegins : ∀ wait, deed.turn (deed.act e s).1 ≠ .began wait) :
  Scene.Hushed w e.store.ref s (deed.act e s).2
  := by
  by_cases hturns : deed.turns = true
  · obtain ⟨⟨x', halike, hserves⟩, -⟩ := act_serves honest hx hturns
    obtain ⟨hcalls, hsilent'⟩ := hsilent.turn hbegins
    have hdesk : (deed.act e s).2.1.desk = s.1.desk := by
      rw [hserves.desk, hcalls]
      rfl
    refine ⟨hserves.archive.silent (halike.silent hsilent') rfl, ?_, ?_⟩
    · rw [hdesk]
      exact hw
    · apply Watcher.received_of_same hserves.taken
      rw [hdesk]
  · cases deed with
    | setHandler journal => exact setHandler_hushed honest hx hsilent hw journal
    | subscribe => exact subscribe_hushed honest hx hsilent hw
    | close => exact absurd rfl hclose
    | _ => exact absurd rfl hturns

end StoreDeed

/-- The operation opens and closes no store, and drops no receiver that watches. With other stores
it does no more than read. -/
def Deed.Stays (w : Watcher) (ref : StoreRef) : Deed → Prop
  | onStore store deed => store = ref ∧ deed ≠ .close ∨ deed.reads = true
  | onDesk deed => deed.Spares w
  | openStore .. => False
  | _ => True

/-- The store begins to listen. -/
def Deed.Begins (ref : StoreRef) (s : Scene) (deed : Deed) : Prop :=
  ∃ wait, deed = .onStore ref (.start wait) ∧ s.Succeeds ref (.start wait)

namespace Scene

theorem Still.hushed (h : Still s s') (hsilent : s.Silent ref) (hw : w.Stands s.1.desk) :
  Hushed w ref s s'
  := by
  refine ⟨?_, ?_, Watcher.received_of_same h.taken (by rw [h.desk])⟩
  · have hstores : s'.2.stores = s.2.stores := h.archive
    rw [Silent, hstores]
    exact hsilent
  · rw [h.desk]
    exact hw

end Scene

theorem Deed.run_hushed {deed : Deed} (hs : s.Sound) (hsilent : s.Silent ref)
    (hw : w.Stands s.1.desk) (hdeed : deed.Stays w ref) (hbegins : ¬ deed.Begins ref s) :
  Scene.Hushed w ref s (deed.run s).2
  := by
  by_cases hreads : deed.Reads
  · exact (Deed.run_still hreads hs).hushed hsilent hw
  · cases deed with
    | changeDisk f | createOptions l | addMapping options source target | disposeOptions options
    | onRecord record deed | onUnit unit deed | onItem l deed => exact absurd trivial hreads
    | openStore l path options => cases hdeed
    | onDesk deed =>
        refine ⟨hsilent, hw.act hdeed, ?_⟩
        have hact := Watcher.received_act hw hdeed
        simp only [Watcher.received, Deed.run, DeskDeed.run, Access.change, List.filter_append,
          List.map_append, List.append_assoc, hact]
    | onStore store deed =>
        obtain ⟨rfl, hclose⟩ := hdeed.resolve_right hreads
        cases he : s.1.store? store with
        | none =>
            rw [Deed.run_onStore_of_none he]
            exact ⟨hsilent, hw, rfl⟩
        | some e =>
            obtain ⟨rfl, -, honest, x, hx⟩ := hs.store_held he
            let u : Use := ⟨e.store.directory, deed.installs e⟩
            have hrun : (Deed.onStore e.store.ref deed).run s = deed.act e (s.1.note u, s.2) :=
              Deed.run_onStore he deed
            have hquiet : ∀ wait, deed.turn (deed.act e (s.1.note u, s.2)).1 ≠ .began wait := by
              intro wait hturn
              rw [← hrun] at hturn
              obtain ⟨rfl, hok⟩ := StoreDeed.of_turn hturn
              exact hbegins ⟨wait, rfl, hok⟩
            obtain ⟨hsilent', hstands, hreceived⟩ := StoreDeed.act_hushed (s := (s.1.note u, s.2))
              honest hx (hsilent x hx) hw hclose hquiet
            rw [hrun]
            exact ⟨hsilent', hstands, hreceived⟩

namespace Scene

/-- A store that is silent stays so, and tells nothing, until it begins to listen. -/
theorem Goes.hushed (hgoes : s.Goes (fun x deed => deed.Stays w ref ∧ ¬ deed.Begins ref x) s')
    (hs : s.Sound) (hsilent : s.Silent ref) (hw : w.Stands s.1.desk) :
  s'.Sound ∧ Hushed w ref s s'
  := by
  induction hgoes with
  | refl => exact ⟨hs, hsilent, hw, rfl⟩
  | tail _ hmove ih =>
      obtain ⟨hs₁, hhushed⟩ := ih
      obtain ⟨hs', ⟨deed, ⟨hstays, hbegins⟩, rfl⟩ | hstill⟩ := hmove.deed_or_still hs₁
      · exact ⟨hs', hhushed.trans (Deed.run_hushed hs₁ hhushed.silent hhushed.stands hstays hbegins)⟩
      · exact ⟨hs', hhushed.trans (hstill.hushed hhushed.silent hhushed.stands)⟩

/-- After it has ended listening, a store tells nothing until it begins to listen. -/
theorem Goes.silence {e : EventStore Archive} (he : s.1.store? ref = some e) (hs : s.Sound)
    (hw : w.Stands s.1.desk)
    (hgoes : (s.after ref .stop).Goes (fun x deed => deed.Stays w ref ∧ ¬ deed.Begins ref x) s') :
  w.received s'.1 = w.received (s.after ref .stop).1
  := by
  obtain ⟨rfl, -, honest, x, hx⟩ := hs.store_held he
  let u : Use := ⟨e.store.directory, false⟩
  have hrun : s.after e.store.ref .stop = (StoreDeed.stop.act e (s.1.note u, s.2)).2 :=
    congrArg Prod.snd (Deed.run_onStore he .stop)
  have hturns : StoreDeed.stop.turns = true := rfl
  obtain ⟨⟨x', halike, hserves⟩, -⟩ :=
    StoreDeed.act_serves honest (s := (s.1.note u, s.2)) hx hturns
  rw [← hrun] at hserves
  have hsilent : (s.after e.store.ref .stop).Silent e.store.ref :=
    hserves.archive.silent (halike.silent x.silent_stopped) rfl
  have hstands : w.Stands (s.after e.store.ref .stop).1.desk := by
    rw [hserves.desk]
    exact hw.process _
  exact (hgoes.hushed ((Deed.onStore e.store.ref .stop).run_leads s hs).1 hsilent hstands).2.received

end Scene

end SymbolIndex
