import SymbolIndex.Proofs.Accounts.Conservation
import SymbolIndex.Proofs.Events.Desk
import SymbolIndex.Proofs.Events.Serving

/-!
# Handlers belong to their stores

A handler is kept by one open store only. So whatever happens to one store leaves the handlers of
the others alone, and a store that keeps a feed for its subscribers has the handler that sends to
the feed.
-/

namespace SymbolIndex

variable {s s' : Scene} {ref : StoreRef} {x x' : ArchiveStore}

/-! ### Handlers that a store keeps -/

namespace ArchiveStore

/-- The store has the handler, or is still to deliver something to it. -/
def Keeps (x : ArchiveStore) (h : HandlerRef) : Prop :=
  x.handler = some h ∨ ∃ n, x.pending = some (h, n)

variable {h : HandlerRef}

theorem Alike.keeps_iff (hx : x.Alike x') :
  x'.Keeps h ↔ x.Keeps h
  := by
  rw [Keeps, Keeps, hx.handler, hx.pending]

theorem release_deliver (x : ArchiveStore) (n : NotificationView) :
  .release h ∉ x.deliver n
  := by
  simp [deliver]

theorem deliverPending_of_none (hx : x.pending = none) :
  x.deliverPending = ([], x)
  := by
  simp [deliverPending, hx]

theorem release_deliverPending (hr : .release h ∈ x.deliverPending.1) :
  x.Keeps h ∧ x.handler ≠ some h
  := by
  cases hp : x.pending with
  | none =>
      rw [deliverPending_of_none hp] at hr
      cases hr
  | some p =>
      obtain ⟨g, n⟩ := p
      by_cases hg : x.handler = some g
      · simp [deliverPending, hp, hg] at hr
      · obtain rfl : h = g := by simpa [deliverPending, hp, hg] using hr
        exact ⟨.inr ⟨n, hp⟩, hg⟩

theorem keeps_deliverPending (hk : x.deliverPending.2.Keeps h) :
  x.Keeps h
  := by
  rw [Keeps, handler_deliverPending, pending_deliverPending] at hk
  exact .inl (by simpa using hk)

@[simp]
theorem handler_turn (t : Turn) (x : ArchiveStore) :
  (x.turn t).2.handler = x.handler
  := by
  cases t with
  | rest => rfl
  | discarded unit =>
      rw [turn, discard]
      split <;> rfl
  | began wait => rfl
  | stopped => exact handler_deliverPending _
  | caughtUp => exact handler_deliverPending _

theorem keeps_turn {t : Turn} (hk : (x.turn t).2.Keeps h) :
  x.Keeps h
  := by
  cases t with
  | rest => exact hk
  | discarded unit =>
      rw [turn, discard] at hk
      split at hk <;> exact hk
  | began wait =>
      rcases hk with hk | ⟨n, hn⟩
      · exact .inl hk
      · left
        cases wait with
        | true => cases hn
        | false =>
            obtain ⟨g, hg, heq⟩ := Option.map_eq_some_iff.mp hn
            rw [hg, (Prod.mk.inj heq).1]
  | stopped => exact keeps_deliverPending (x := { x with listening := false }) hk
  | caughtUp => exact keeps_deliverPending hk

/-- A handler is let go of only when nothing is left to deliver to it and it has been replaced. -/
theorem release_turn {t : Turn} (hr : .release h ∈ (x.turn t).1) :
  x.Keeps h ∧ x.handler ≠ some h
  := by
  cases t with
  | rest => cases hr
  | discarded unit =>
      rw [turn, discard] at hr
      split at hr
      · split at hr
        · exact absurd hr (x.release_deliver _)
        · cases hr
      · cases hr
  | began wait =>
      cases wait with
      | true => exact absurd hr (x.release_deliver _)
      | false => cases hr
  | stopped => exact release_deliverPending (x := { x with listening := false }) hr
  | caughtUp => exact release_deliverPending hr

theorem release_releaseHandler (hr : .release h ∈ x.releaseHandler) :
  x.handler = some h
  := by
  rw [releaseHandler] at hr
  split at hr
  case h_1 => cases hr
  case h_2 g hg =>
      split at hr
      · cases hr
      · obtain rfl : h = g := by simpa using hr
        exact hg

theorem release_close (hr : .release h ∈ x.close) :
  x.Keeps h
  := by
  have hclose : x.close = x.stopListening.1 ++ x.stopListening.2.releaseHandler := rfl
  rw [hclose] at hr
  rcases List.mem_append.mp hr with hr | hr
  · exact (release_deliverPending (x := { x with listening := false }) hr).1
  · have hhandler := release_releaseHandler hr
    rw [stopListening, handler_deliverPending] at hhandler
    exact .inl hhandler

/-- A handler that a store keeps has been handed out. -/
theorem Orderly.keeps_lt {handedOut : Nat} (hx : x.Orderly handedOut) (hk : x.Keeps h) :
  h < handedOut
  := by
  rcases hk with hk | ⟨n, hn⟩
  · exact hx.handler h hk
  · exact (hx.pending (h, n) hn).2

end ArchiveStore

/-! ### Handlers of all stores -/

/-- A handler is kept by one open store at most. -/
def Archive.Exclusive (a : Archive) : Prop :=
  ∀ r r' x x' h, a.stores.get? r = some x → a.stores.get? r' = some x' → x.Keeps h → x'.Keeps h →
    r = r'

/-- The handler of an open store sends to a feed. -/
def Archive.Feeds (desk : Desk) (ref : StoreRef) (feed : Nat) (a : Archive) : Prop :=
  ∃ x h, a.stores.get? ref = some x ∧ x.handler = some h
    ∧ desk.handlers.get? h = some (.feed feed) ∧ ∃ k, desk.feeds.get? feed = some k

/-- Handlers belong to one store each, and the feed that a store keeps belongs to its handler. -/
structure Scene.Attached (s : Scene) : Prop where
  desk : s.1.desk.Sound
  exclusive : s.2.Exclusive
  feeds : ∀ e ∈ s.1.stores, ∀ f, e.feed = some f → s.2.Feeds s.1.desk e.store.ref f

namespace Desk

variable {d : Desk}

theorem handlers_call_deliver (h : HandlerRef) (n : NotificationView) :
  (d.call (.deliver h n)).handlers = d.handlers
  := by
  simp only [call]
  split
  case h_1 sink _ => cases sink <;> rfl
  case h_2 => rfl

/-- A handler that is not let go of stays. -/
theorem get?_process {h : HandlerRef} {calls : List HandlerCall} (hr : .release h ∉ calls) :
  (d.process calls).handlers.get? h = d.handlers.get? h
  := by
  induction calls generalizing d with
  | nil => rfl
  | cons c calls ih =>
      have hrest : HandlerCall.release h ∉ calls := fun hc => hr (List.mem_cons_of_mem _ hc)
      have hfirst : (d.call c).handlers.get? h = d.handlers.get? h := by
        cases c with
        | deliver g n => rw [handlers_call_deliver]
        | release g =>
            have hg : h ≠ g := by
              rintro rfl
              exact hr List.mem_cons_self
            simp [call, Table.get?_erase, hg]
      exact (ih hrest).trans hfirst

theorem feed_note {f : Nat} (hf : ∃ k, d.feeds.get? f = some k) (n : NotificationView)
    (sink : Sink) :
  ∃ k, (d.note n sink).feeds.get? f = some k
  := by
  cases sink with
  | journal j => exact hf
  | feed g => exact Table.found_modify hf g _

theorem feed_letGo {f : Nat} (hf : ∃ k, d.feeds.get? f = some k) (feed : Option Nat) :
  ∃ k, (d.letGo feed).feeds.get? f = some k
  := by
  cases feed with
  | none => exact hf
  | some g => exact Table.found_modify hf g _

/-- A feed stays. -/
theorem feed_process {f : Nat} (hf : ∃ k, d.feeds.get? f = some k) (calls : List HandlerCall) :
  ∃ k, (d.process calls).feeds.get? f = some k
  := by
  induction calls generalizing d with
  | nil => exact hf
  | cons c calls ih =>
      apply ih
      cases c with
      | deliver h n =>
          simp only [call]
          split
          · exact feed_note hf _ _
          · exact hf
      | release h => exact hf

end Desk

namespace Archive

variable {a a' : Archive} {desk desk' : Desk} {r : StoreRef} {f : Nat}

/-- A change of one store leaves the handlers of the others alone, and gives the store no handler
of another one. -/
theorem Exclusive.with (ha : a.Exclusive) (hx : a.stores.get? ref = some x)
    (hwith : With ref x' a a')
    (hkeeps : ∀ h, x'.Keeps h →
      x.Keeps h ∨ ∀ r y, a.stores.get? r = some y → ¬ y.Keeps h) :
  a'.Exclusive
  := by
  -- What the changed store keeps it has kept before, or nobody has.
  have hothers : ∀ r y h, a'.stores.get? r = some y → y.Keeps h → r ≠ ref → x'.Keeps h → False := by
    intro r y h hr hy hne hx'
    rw [hwith, if_neg hne] at hr
    rcases hkeeps h hx' with hkept | hfresh
    · exact hne (ha r ref y x h hr hx hy hkept)
    · exact hfresh r y hr hy
  intro r r' y y' h hr hr' hy hy'
  by_cases hsame : r = ref
  · by_cases hsame' : r' = ref
    · rw [hsame, hsame']
    · rw [hwith, if_pos hsame] at hr
      obtain rfl := Option.some.inj hr
      exact (hothers r' y' h hr' hy' hsame' hy).elim
  · by_cases hsame' : r' = ref
    · rw [hwith, if_pos hsame'] at hr'
      obtain rfl := Option.some.inj hr'
      exact (hothers r y h hr hy hsame hy').elim
    · rw [hwith, if_neg hsame] at hr
      rw [hwith, if_neg hsame'] at hr'
      exact ha r r' y y' h hr hr' hy hy'

/-- The desk keeps the handlers that it has, and the feeds. -/
theorem Feeds.of_desk (h : a.Feeds desk r f)
    (hhandlers : ∀ g sink, desk.handlers.get? g = some sink → desk'.handlers.get? g = some sink)
    (hfeeds : (∃ k, desk.feeds.get? f = some k) → ∃ k, desk'.feeds.get? f = some k) :
  a.Feeds desk' r f
  := by
  obtain ⟨y, g, hy, hg, hsink, hk⟩ := h
  exact ⟨y, g, hy, hg, hhandlers g _ hsink, hfeeds hk⟩

variable {calls : List HandlerCall}

/-- What happens to one store leaves the others alone. -/
theorem Feeds.of_other (h : a.Feeds desk r f) (ha : a.Exclusive)
    (hx : a.stores.get? ref = some x) (hne : r ≠ ref) (hwith : With ref x' a a')
    (hrelease : ∀ g, .release g ∈ calls → x.Keeps g) :
  a'.Feeds (desk.process calls) r f
  := by
  obtain ⟨y, g, hy, hg, hsink, hk⟩ := h
  have hkept : .release g ∉ calls := by
    intro hr
    exact hne (ha r ref y x g hy hx (.inl hg) (hrelease g hr))
  refine ⟨y, g, ?_, hg, ?_, Desk.feed_process hk calls⟩
  · rw [hwith, if_neg hne, hy]
  · rw [Desk.get?_process hkept, hsink]

/-- A store that does not let go of its handler keeps its feed. -/
theorem Feeds.of_same (h : a.Feeds desk ref f) (hx : a.stores.get? ref = some x)
    (hwith : With ref x' a a') (hhandler : x'.handler = x.handler)
    (hrelease : ∀ g, .release g ∈ calls → x.handler ≠ some g) :
  a'.Feeds (desk.process calls) ref f
  := by
  obtain ⟨y, g, hy, hg, hsink, hk⟩ := h
  obtain rfl := Option.some.inj (hx.symm.trans hy)
  have hkept : .release g ∉ calls := fun hr => hrelease g hr hg
  refine ⟨x', g, ?_, hhandler.trans hg, ?_, Desk.feed_process hk calls⟩
  · rw [hwith, if_pos rfl]
  · rw [Desk.get?_process hkept, hsink]

end Archive

/-! ### Operations -/

namespace Scene

theorem Attached.still (hs : s.Attached) (h : Still s s') :
  s'.Attached
  := by
  have hget : s'.2.stores = s.2.stores := h.archive
  constructor
  · rw [h.desk]
    exact hs.desk
  · rw [Archive.Exclusive, hget]
    exact hs.exclusive
  · rw [h.stores, h.desk]
    intro e he f hf
    rw [Archive.Feeds, hget]
    exact hs.feeds e he f hf

/-- An operation that neither closes the store nor replaces its handler. -/
theorem Attached.turn (hs : s.Attached) {t : Turn} (hx : s.2.stores.get? ref = some x)
    (halike : (x.turn t).2.Alike x') (h : Serves ref (x.turn t).1 x' s s') :
  s'.Attached
  := by
  have hhandler : x'.handler = x.handler := halike.handler.trans (x.handler_turn t)
  constructor
  · rw [h.desk]
    exact hs.desk.process _
  · apply hs.exclusive.with hx h.archive
    intro g hg
    exact .inl (ArchiveStore.keeps_turn (halike.keeps_iff.mp hg))
  · rw [h.stores, h.desk]
    intro e he f hf
    have hfeeds := hs.feeds e he f hf
    rcases eq_or_ne e.store.ref ref with rfl | hne
    · apply hfeeds.of_same hx h.archive hhandler
      intro g hg
      exact (ArchiveStore.release_turn hg).2
    · apply hfeeds.of_other hs.exclusive hx hne h.archive
      intro g hg
      exact (ArchiveStore.release_turn hg).1

/-- A handler that is installed is new. The store lets go of the one before it. -/
theorem Attached.install (hs : s.Attached) (hsound : s.2.Sound s.1.desk.handlers.next)
    {e : EventStore Archive} (honest : e.store.library.Honest)
    (hx : s.2.stores.get? e.store.ref = some x) (sink : Sink) {desk : Desk}
    (hdesk : desk.Sound) (hhandlers : desk.handlers = s.1.desk.handlers)
    (hfeeds : ∀ f, (∃ k, s.1.desk.feeds.get? f = some k) → ∃ k, desk.feeds.get? f = some k) :
  let y := e.install sink (desk, s.2)
  y.1 = (desk.handler sink).2.process x.releaseHandler
    ∧ y.1.Sound ∧ y.2.Exclusive
    ∧ Archive.With e.store.ref { x with handler := some desk.handlers.next } s.2 y.2
    ∧ y.1.handlers.get? desk.handlers.next = some sink
    ∧ ∀ r, r ≠ e.store.ref → ∀ f, s.2.Feeds s.1.desk r f → y.2.Feeds y.1 r f
  := by
  obtain ⟨hy, hwith⟩ := EventStore.install_eq honest hx sink desk
  -- Every handler that is kept has been handed out, and the next one has not.
  have hfresh : ∀ r y, s.2.stores.get? r = some y → ¬ y.Keeps desk.handlers.next := by
    intro r y hy hk
    have hlt := (hsound.orderly hy).keeps_lt hk
    rw [hhandlers] at hlt
    exact absurd hlt (Nat.lt_irrefl _)
  have hnew : (desk.handler sink).2.handlers.get? desk.handlers.next = some sink :=
    hdesk.handlers.get?_insert sink
  have hold : .release desk.handlers.next ∉ x.releaseHandler := by
    intro hr
    exact hfresh _ x hx (.inl (ArchiveStore.release_releaseHandler hr))
  refine ⟨hy, ?_, ?_, hwith, ?_, ?_⟩
  · rw [hy]
    exact (hdesk.handler sink).process _
  · apply hs.exclusive.with hx hwith
    intro g hg
    rcases hg with hg | hg
    · obtain rfl := Option.some.inj hg
      exact .inr hfresh
    · exact .inl (.inr hg)
  · rw [hy, Desk.get?_process hold, hnew]
  · intro r hne f hf
    rw [hy]
    have hinserted : s.2.Feeds (desk.handler sink).2 r f := by
      refine hf.of_desk ?_ (hfeeds f)
      intro g sink' hg
      rw [← hhandlers] at hg
      exact Table.get?_insert_of_some hg sink
    apply hinserted.of_other hs.exclusive hx hne hwith
    intro g hg
    exact .inl (ArchiveStore.release_releaseHandler hg)

/-- A store is put in the place of itself with another feed. -/
theorem forall_update {h : Holdings} {e : EventStore Archive} {P : EventStore Archive → Prop}
    (he : P e) (hothers : ∀ e' ∈ h.stores, e'.store.ref ≠ e.store.ref → P e') :
  ∀ e' ∈ (h.update e).stores, P e'
  := by
  intro e' he'
  obtain ⟨e₀, he₀, rfl⟩ := List.mem_map.mp he'
  split
  case isTrue => exact he
  case isFalse hne => exact hothers e₀ he₀ hne

end Scene

namespace StoreDeed

variable {e : EventStore Archive} (hs : s.Attached)
  (hsound : s.2.Sound s.1.desk.handlers.next) (honest : e.store.library.Honest)
  (hx : s.2.stores.get? e.store.ref = some x)

include hs hsound honest hx

theorem setHandler_attached (journal : Nat) :
  Scene.Attached ((setHandler journal).act e s).2
  := by
  obtain ⟨-, hdesk, hexclusive, -, -, hothers⟩ := hs.install hsound honest hx (.journal journal)
    (hs.desk.letGo e.feed) (Desk.handlers_letGo _ _) (fun f hf => Desk.feed_letGo hf e.feed)
  constructor
  · exact hdesk
  · exact hexclusive
  · apply Scene.forall_update
    · intro f hf
      cases hf
    · intro e' he' hne f hf
      exact hothers _ hne f (hs.feeds e' he' f hf)

/-- A store without a feed is given one. -/
theorem ownFeed_attached (he : e ∈ s.1.stores) :
  let y := e.ownFeed (s.1.desk, s.2)
  y.2.1.Sound ∧ y.2.2.Exclusive ∧ y.2.2.Feeds y.2.1 e.store.ref y.1
    ∧ ∀ r, r ≠ e.store.ref → ∀ f, s.2.Feeds s.1.desk r f → y.2.2.Feeds y.2.1 r f
  := by
  cases hfeed : e.feed with
  | some f =>
      simp only [EventStore.ownFeed, hfeed]
      exact ⟨hs.desk, hs.exclusive, hs.feeds e he f hfeed, fun _ _ _ => id⟩
  | none =>
      let f := s.1.desk.feed.1
      let y := e.install (.feed f) (s.1.desk.feed.2, s.2)
      have hmore : ∀ f', (∃ k, s.1.desk.feeds.get? f' = some k) →
          ∃ k, s.1.desk.feed.2.feeds.get? f' = some k := by
        rintro f' ⟨k, hk⟩
        exact ⟨k, Table.get?_insert_of_some hk _⟩
      obtain ⟨hy, hdesk, hexclusive, hwith, hsink, hothers⟩ :=
        hs.install hsound honest hx (.feed f) hs.desk.feed rfl hmore
      have hown : y.2.Feeds y.1 e.store.ref f := by
        let h := s.1.desk.feed.2.handlers.next
        refine ⟨{ x with handler := some h }, h, ?_, rfl, hsink, ?_⟩
        · rw [hwith, if_pos rfl]
        · have hfeed : (s.1.desk.feed.2.handler (.feed f)).2.feeds.get? f = some {} :=
            hs.desk.feeds.get?_insert {}
          rw [hy]
          exact Desk.feed_process ⟨_, hfeed⟩ _
      simp only [EventStore.ownFeed, hfeed]
      exact ⟨hdesk, hexclusive, hown, hothers⟩

theorem subscribe_attached (he : e ∈ s.1.stores) :
  Scene.Attached (subscribe.act e s).2
  := by
  obtain ⟨hdesk, hexclusive, hown, hothers⟩ := ownFeed_attached hs hsound honest hx he
  let y := e.ownFeed (s.1.desk, s.2)
  have hkept : ∀ r f, y.2.2.Feeds y.2.1 r f → y.2.2.Feeds (y.2.1.subscribe y.1).2 r f := by
    intro r f hf
    exact hf.of_desk (fun _ _ => id) fun hk => Table.found_modify hk y.1 _
  rw [act_subscribe]
  constructor
  · exact hdesk.subscribe y.1
  · exact hexclusive
  · apply Scene.forall_update
    · rintro f hf
      obtain rfl := Option.some.inj hf
      exact hkept _ y.1 hown
    · intro e' he' hne f hf
      exact hkept _ f (hothers _ hne f (hs.feeds e' he' f hf))

omit hs hsound in
/-- What is left of a store that is closed. -/
theorem close_eq :
  (close.act e s).2.1.desk = (s.1.desk.process x.close).letGo e.feed
    ∧ (close.act e s).2.2.stores = s.2.stores.erase e.store.ref
  := by
  have hbackend : e.store.library.backend = Archive.backend := honest
  have hdispose : (Archive.disposeStore e.store.ref s.2).1 = x.close
      ∧ (Archive.disposeStore e.store.ref s.2).2.stores = s.2.stores.erase e.store.ref := by
    simp only [Archive.disposeStore, hx]
    exact ⟨trivial, rfl⟩
  simp only [act, Scene.useDesk, Access.change, EventStore.close, EventStore.calling, hbackend]
  exact ⟨congrArg (fun calls => (s.1.desk.process calls).letGo e.feed) hdispose.1, hdispose.2⟩

omit hsound in
/-- The handlers of a store that is closed were its own. -/
theorem close_attached :
  Scene.Attached (close.act e s).2
  := by
  obtain ⟨hdesk, hstores⟩ := close_eq honest hx
  have hget : ∀ r, (close.act e s).2.2.stores.get? r
      = if r = e.store.ref then none else s.2.stores.get? r := by
    intro r
    rw [hstores, Table.get?_erase]
  constructor
  · rw [hdesk]
    exact (hs.desk.process _).letGo _
  · intro r r' y y' h hr hr' hy hy'
    rw [hget] at hr hr'
    split at hr
    · cases hr
    · split at hr'
      · cases hr'
      · exact hs.exclusive r r' y y' h hr hr' hy hy'
  · intro e' he' f hf
    obtain ⟨hmem, hne⟩ := List.mem_filter.mp he'
    rw [bne_iff_ne] at hne
    obtain ⟨y, g, hy, hg, hsink, hk⟩ := hs.feeds e' hmem f hf
    have hkept : .release g ∉ x.close := by
      intro hr
      exact hne (hs.exclusive _ _ y x g hy hx (.inl hg) (ArchiveStore.release_close hr))
    rw [hdesk]
    refine ⟨y, g, ?_, hg, ?_, Desk.feed_letGo (Desk.feed_process hk _) _⟩
    · rw [hget, if_neg hne, hy]
    · rw [Desk.handlers_letGo, Desk.get?_process hkept, hsink]

theorem act_attached (he : e ∈ s.1.stores) (deed : StoreDeed) :
  Scene.Attached (deed.act e s).2
  := by
  by_cases hturns : deed.turns = true
  · obtain ⟨⟨x', halike, hserves⟩, -⟩ := act_serves honest hx hturns
    exact hs.turn hx halike hserves
  · cases deed with
    | setHandler journal => exact setHandler_attached hs hsound honest hx journal
    | subscribe => exact subscribe_attached hs hsound honest hx he
    | close => exact close_attached hs honest hx
    | _ => exact absurd rfl hturns

end StoreDeed

namespace Scene

theorem Attached.onDesk (hs : s.Attached) (deed : DeskDeed) :
  Scene.Attached (deed.run s).2
  := by
  have hfeeds : ∀ f, (∃ k, s.1.desk.feeds.get? f = some k) →
      ∃ k, (deed.act s.1.desk).feeds.get? f = some k := by
    intro f hf
    cases deed with
    | newJournal | takeJournal j => exact hf
    | receive r | drain r | drop r => exact Table.found_modify hf _ _
  refine ⟨hs.desk.act deed, hs.exclusive, ?_⟩
  intro e he f hf
  refine (hs.feeds e he f hf).of_desk ?_ (hfeeds f)
  intro g sink hg
  rw [DeskDeed.run, Access.change, deed.handlers_act]
  exact hg

end Scene

theorem Archive.createStore_cases (octets : Text.Octets) (options : Option OptionsRef)
    (a : Archive) :
  ((∃ e, (createStore octets options a).1 = ⟨none, some e⟩)
      ∧ Still a (createStore octets options a).2)
    ∨ (createStore octets options a).1 = ⟨some a.stores.next, none⟩
      ∧ ∃ x : ArchiveStore, (x.handler = none ∧ x.pending = none)
        ∧ (createStore octets options a).2.stores = (a.stores.insert x).2
  := by
  simp only [createStore]
  split
  · exact .inl ⟨⟨_, rfl⟩, rfl⟩
  · exact .inr ⟨rfl, _, ⟨rfl, rfl⟩, rfl⟩

/-- An access that opens a store without a handler, or ends with an error and leaves the open
stores alone. -/
def Access.OpensStore (m : Access Archive (Store Archive)) (a : Archive) : Prop :=
  match m a with
  | (.ok store, a') => store.ref = a.stores.next ∧ ∃ x : ArchiveStore, (x.handler = none ∧ x.pending = none)
      ∧ a'.stores = (a.stores.insert x).2
  | (.error _, a') => Archive.Still a a'

theorem Store.openAt_opensStore {l : Library Archive} (honest : l.Honest) (path : String)
    (options : Option (Options Archive)) (a : Archive) :
  (openAt l path options).OpensStore a
  := by
  have hbackend : l.backend = Archive.backend := honest
  rw [openAt]
  split
  · exact refl_of Archive.Still a
  · cases hpath : Text.terminated? path with
    | none =>
        simp only [Access.terminatedPath, hpath]
        exact refl_of Archive.Still a
    | some octets =>
        simp only [Access.OpensStore, Access.terminatedPath, hpath, bind, Access.bind, Access.pure,
          Access.step, hbackend, Archive.backend]
        rcases Archive.createStore_cases octets (options.map Options.ref) a with
          ⟨⟨e, hanswer⟩, hstill⟩ | ⟨hanswer, hopened⟩
        · rw [hanswer]
          exact trans_of Archive.Still hstill (Archive.reads_aside.takeError_within honest e _).stores
        · rw [hanswer]
          exact ⟨rfl, hopened⟩

namespace Scene

/-- A store is opened. It has no handler yet. -/
structure Opens (s : Scene) (e : EventStore Archive) (x : ArchiveStore) (s' : Scene) : Prop where
  handler : x.handler = none
  pending : x.pending = none
  feed : e.feed = none
  ref : e.store.ref = s.2.stores.next
  archive : s'.2.stores = (s.2.stores.insert x).2
  stores : s'.1.stores = s.1.stores ++ [e]
  desk : s'.1.desk = s.1.desk
  taken : s'.1.taken = s.1.taken

/-- To open a store ends with one more, or with an error and nothing else. -/
theorem still_or_opens (s : Scene) (l : Library Archive) (path : String)
    (options : Option OptionsRef) :
  Still s ((Deed.openStore l path options).run s).2
    ∨ ∃ e x, Opens s e x ((Deed.openStore l path options).run s).2
  := by
  have hopens := Store.openAt_opensStore (l.withArchive_honest l.convention) path
    (options.bind s.1.option?) s.2
  rw [Access.OpensStore] at hopens
  simp only [Deed.run, use]
  rcases hresult : Store.openAt (l.withArchive l.convention) path (options.bind s.1.option?) s.2
    with ⟨h | store, a⟩
  · rw [hresult] at hopens
    exact .inl ⟨hopens, rfl, rfl, rfl⟩
  · rw [hresult] at hopens
    obtain ⟨href, x, ⟨hhandler, hpending⟩, hstores⟩ := hopens
    exact .inr ⟨{ store }, x, hhandler, hpending, rfl, href, hstores, rfl, rfl, rfl⟩

namespace Opens

variable {e : EventStore Archive} {x : ArchiveStore} (h : Opens s e x s')

include h

theorem not_keeps (g : HandlerRef) :
  ¬ x.Keeps g
  := by
  simp [ArchiveStore.Keeps, h.handler, h.pending]

/-- A store that is open has been so before, or is the new one. -/
theorem found {r : StoreRef} {y : ArchiveStore} (hr : s'.2.stores.get? r = some y) :
  s.2.stores.get? r = some y ∨ r = e.store.ref ∧ y = x
  := by
  rw [h.archive] at hr
  rw [h.ref]
  exact Table.found_insert hr

theorem attached (hs : s.Attached) :
  s'.Attached
  := by
  have hold : ∀ r y g, s'.2.stores.get? r = some y → y.Keeps g → s.2.stores.get? r = some y := by
    intro r y g hr hy
    rcases h.found hr with hr | ⟨-, rfl⟩
    · exact hr
    · exact absurd hy (h.not_keeps g)
  constructor
  · rw [h.desk]
    exact hs.desk
  · intro r r' y y' g hr hr' hy hy'
    exact hs.exclusive r r' y y' g (hold r y g hr hy) (hold r' y' g hr' hy') hy hy'
  · intro e' he' f hf
    rw [h.stores] at he'
    rcases List.mem_append.mp he' with he' | he'
    · obtain ⟨y, g, hy, hg, hsink, hk⟩ := hs.feeds e' he' f hf
      rw [h.desk]
      refine ⟨y, g, ?_, hg, hsink, hk⟩
      rw [h.archive]
      exact Table.get?_insert_of_some hy x
    · obtain rfl := List.mem_singleton.mp he'
      rw [h.feed] at hf
      cases hf

end Opens

theorem Attached.run (hs : s.Attached) (hsound : s.Sound) (deed : Deed) :
  Scene.Attached (deed.run s).2
  := by
  by_cases hreads : deed.Reads
  · exact hs.still (Deed.run_still hreads hsound)
  · cases deed with
    | changeDisk f | createOptions l | addMapping options source target | disposeOptions options
    | onRecord record deed | onUnit unit deed | onItem l deed => exact absurd trivial hreads
    | onDesk deed => exact hs.onDesk deed
    | openStore l path options =>
        rcases still_or_opens s l path options with hstill | ⟨e, x, hopens⟩
        · exact hs.still hstill
        · exact hopens.attached hs
    | onStore ref deed =>
        cases he : s.1.store? ref with
        | none =>
            rw [Deed.run_onStore_of_none he]
            exact hs
        | some e =>
            obtain ⟨rfl, hmem, honest, x, hx⟩ := hsound.store_held he
            let u : Use := ⟨e.store.directory, deed.installs e⟩
            have hnoted : Scene.Attached (s.1.note u, s.2) := hs.still ⟨rfl, rfl, rfl, rfl⟩
            rw [Deed.run_onStore he]
            exact StoreDeed.act_attached hnoted hsound.archive honest hx hmem deed

theorem start_attached (disk : Disk) :
  (start disk).Attached
  := by
  constructor
  · exact ⟨Table.empty_sound, Table.empty_sound, by simp [start, Table.values]⟩
  · intro r r' x x' h hr
    cases hr
  · intro e he
    cases he

/-- The way from one scene to another keeps handlers with their stores, as long as the books are
in agreement with what is held. -/
def LeavesAttached (s s' : Scene) : Prop :=
  s.Sound ∧ s.Attached → s'.Sound ∧ s'.Attached

instance : IsPreorder Scene LeavesAttached where
  refl _ h := h
  trans _ _ _ h h' hs := h' (h hs)

theorem leavesAttached_of_still (hleads : Leads s s') (h : s.Sound → Still s s') :
  LeavesAttached s s'
  := by
  rintro ⟨hs, hattached⟩
  exact ⟨(hleads hs).1, hattached.still (h hs)⟩

theorem begins_leavesAttached :
  Reading.Begins LeavesAttached
  where
  refused t _ _ h :=
    leavesAttached_of_still (t.noted_leads h) fun _ => (t.aside_noted _).still
  begun t _ _ h :=
    leavesAttached_of_still (t.begun_leads h) fun hs => (t.begun_aside hs h).still
  searched h :=
    leavesAttached_of_still (Reading.searched_leads h) fun hs => (Reading.searched_aside hs h).still

end Scene

/-- At every point of a program handlers belong to their stores. -/
theorem Program.Reaches.attached {β : Type} {p : Program β} {disk : Disk} {x : Scene}
    (h : p.Reaches (Scene.start disk) x) :
  x.Sound ∧ x.Attached
  := by
  have hwithin : Scene.LeavesAttached (Scene.start disk) x := by
    refine h.within Scene.begins_leavesAttached ?_ p.only_true
    rintro deed - s ⟨hs, hattached⟩
    exact ⟨(deed.run_leads s hs).1, hattached.run hs deed⟩
  exact hwithin ⟨Scene.start_sound disk, Scene.start_attached disk⟩

end SymbolIndex
