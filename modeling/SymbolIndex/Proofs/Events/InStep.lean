import SymbolIndex.Proofs.Events.Calls

/-!
# Feeds and handlers in step

A store keeps a feed for its subscribers, and the library keeps a handler for the store. The two
are changed by different operations and at different times. Still, the feed that the store keeps
is always the one to which the handler sends, every handler that a store keeps is at the event
desk, and no two handlers send to the same feed.
-/

namespace SymbolIndex

variable {s s' : Scene} {ref : StoreRef} {x x' : ArchiveStore}

/-- Handlers send to feeds that have been made, and to different ones. -/
structure Desk.Distinct (d : Desk) : Prop where
  made : ∀ h f, d.handlers.get? h = some (.feed f) → f < d.feeds.next
  single : ∀ h h' f, d.handlers.get? h = some (.feed f) → d.handlers.get? h' = some (.feed f) →
    h = h'

/-- Every handler that an open store keeps is at the desk. -/
def Archive.Tended (desk : Desk) (a : Archive) : Prop :=
  ∀ r x h, a.stores.get? r = some x → x.Keeps h → ∃ sink, desk.handlers.get? h = some sink

/-- Feeds and handlers are in step. -/
structure Scene.InStep (s : Scene) : Prop where
  distinct : s.1.desk.Distinct
  tended : s.2.Tended s.1.desk
  slot : ∀ e ∈ s.1.stores, ∀ x h f, s.2.stores.get? e.store.ref = some x → x.handler = some h →
    s.1.desk.handlers.get? h = some (.feed f) → e.feed = some f

/-! ### Desks -/

namespace Desk.Distinct

variable {d d' : Desk} (hd : d.Distinct)

include hd

/-- Feeds may come, but no handlers. -/
theorem of_found (hfound : ∀ h sink, d'.handlers.get? h = some sink → d.handlers.get? h = some sink)
    (hnext : d.feeds.next ≤ d'.feeds.next) :
  d'.Distinct
  := by
  constructor
  · intro h f hh
    exact Nat.lt_of_lt_of_le (hd.made h f (hfound h _ hh)) hnext
  · intro h h' f hh hh'
    exact hd.single h h' f (hfound h _ hh) (hfound h' _ hh')

theorem process (calls : List HandlerCall) :
  (d.process calls).Distinct
  := by
  apply hd.of_found
  · exact fun h sink => found_process
  · exact (d.grows_process calls).nextFeed

/-- A new handler of a new feed. -/
theorem handler (hfound : d'.handlers = d.handlers) (hnext : d.feeds.next ≤ d'.feeds.next)
    {sink : Sink} (hnew : ∀ f, sink = .feed f → d.feeds.next ≤ f ∧ f < d'.feeds.next) :
  (d'.handler sink).2.Distinct
  := by
  -- No handler that has been there before sends to the new feed.
  have hother : ∀ h f, sink = .feed f → d'.handlers.get? h ≠ some (.feed f) := by
    intro h f hf hh
    rw [hfound] at hh
    exact Nat.lt_irrefl _ (Nat.lt_of_lt_of_le (hd.made h f hh) (hnew f hf).1)
  constructor
  · intro h f hh
    rcases Table.found_insert hh with hh | ⟨-, hf⟩
    · rw [hfound] at hh
      exact Nat.lt_of_lt_of_le (hd.made h f hh) hnext
    · exact (hnew f hf.symm).2
  · intro h h' f hh hh'
    rcases Table.found_insert hh with hh | ⟨rfl, hf⟩
    · rcases Table.found_insert hh' with hh' | ⟨-, hf⟩
      · rw [hfound] at hh hh'
        exact hd.single h h' f hh hh'
      · exact absurd hh (hother h f hf.symm)
    · rcases Table.found_insert hh' with hh' | ⟨rfl, -⟩
      · exact absurd hh' (hother h' f hf.symm)
      · rfl

theorem readied (e : EventStore Archive) (deed : StoreDeed) :
  (deed.readied e d).Distinct
  := by
  cases deed with
  | setHandler journal =>
      apply hd.handler
      · exact handlers_letGo d e.feed
      · exact (d.grows_letGo e.feed).nextFeed
      · intro f hf
        cases hf
  | subscribe =>
      rw [StoreDeed.readied]
      split
      · apply hd.handler
        · rfl
        · exact d.grows_feed.nextFeed
        · intro f hf
          obtain rfl := Sink.feed.inj hf
          exact ⟨Nat.le_refl _, Nat.lt_succ_self _⟩
      · exact hd
  | _ => exact hd

theorem concluded (e : EventStore Archive) (before : Desk) (deed : StoreDeed) :
  (deed.concluded e before d).Distinct
  := by
  apply hd.of_found
  · intro h sink hh
    cases deed with
    | subscribe => exact hh
    | close =>
        rw [StoreDeed.concluded, handlers_letGo] at hh
        exact hh
    | _ => exact hh
  · exact (deed.grows_concluded e before d).nextFeed

end Desk.Distinct

/-! ### Handlers that are let go of -/

namespace ArchiveStore

variable {h : HandlerRef}

/-- A handler that is let go of in a turn is not kept after it. -/
theorem not_keeps_turn {t : Turn} (hr : .release h ∈ (x.turn t).1) :
  ¬ (x.turn t).2.Keeps h
  := by
  have hhandler : (x.turn t).2.handler ≠ some h := by
    rw [handler_turn]
    exact (release_turn hr).2
  -- Only what ends with nothing left to deliver lets go of a handler.
  have hpending : (x.turn t).2.pending = none := by
    cases t with
    | rest => cases hr
    | discarded unit =>
        rw [turn, discard] at hr
        split at hr
        · split at hr
          · exact absurd hr (x.release_deliver _)
          · cases hr
        · cases hr
    | began wait =>
        cases wait with
        | true => exact absurd hr (x.release_deliver _)
        | false => cases hr
    | stopped => exact pending_deliverPending _
    | caughtUp => exact pending_deliverPending _
  rintro (hk | ⟨n, hn⟩)
  · exact hhandler hk
  · rw [hpending] at hn
    cases hn

/-- A handler that is replaced is let go of unless something is left to deliver to it. -/
theorem not_pending_releaseHandler (hr : .release h ∈ x.releaseHandler) (n : NotificationView) :
  x.pending ≠ some (h, n)
  := by
  intro hp
  rw [releaseHandler] at hr
  split at hr
  case h_1 => cases hr
  case h_2 g _ =>
      split at hr
      case isTrue => cases hr
      case isFalse hother =>
          obtain rfl : h = g := by simpa using hr
          simp [hp] at hother

end ArchiveStore

/-! ### Archives -/

namespace Archive

variable {a a' : Archive} {desk desk' : Desk} {calls : List HandlerCall}

/-- A store is changed, and lets go of no handler that it goes on to keep. -/
theorem Tended.with (ht : a.Tended desk) (ha : a.Exclusive) (hx : a.stores.get? ref = some x)
    (hwith : With ref x' a a')
    (hold : ∀ h sink, desk.handlers.get? h = some sink → desk'.handlers.get? h = some sink)
    (hkept : ∀ h, x'.Keeps h → ∃ sink, desk'.handlers.get? h = some sink)
    (hrelease : ∀ h, .release h ∈ calls → x.Keeps h ∧ ¬ x'.Keeps h) :
  a'.Tended (desk'.process calls)
  := by
  intro r y h hr hy
  rw [hwith] at hr
  split at hr
  case isTrue =>
      obtain rfl := Option.some.inj hr
      rw [Desk.get?_process fun hcall => (hrelease h hcall).2 hy]
      exact hkept h hy
  case isFalse hne =>
      have hothers : .release h ∉ calls :=
        fun hcall => hne (ha r ref y x h hr hx hy (hrelease h hcall).1)
      obtain ⟨sink, hsink⟩ := ht r y h hr hy
      rw [Desk.get?_process hothers]
      exact ⟨sink, hold h sink hsink⟩

/-- A handler of a store of its own is at the desk still when another store is closed. -/
theorem Tended.close (ht : a.Tended desk) (ha : a.Exclusive) (hx : a.stores.get? ref = some x)
    (hstores : a'.stores = a.stores.erase ref) :
  a'.Tended (desk.process x.close)
  := by
  intro r y h hr hy
  rw [hstores, Table.get?_erase] at hr
  split at hr
  case isTrue => cases hr
  case isFalse hne =>
      have hothers : .release h ∉ x.close :=
        fun hcall => hne (ha r ref y x h hr hx hy (ArchiveStore.release_close hcall))
      rw [Desk.get?_process hothers]
      exact ht r y h hr hy

/-- The desk may do anything but let go of a handler. -/
theorem Tended.of_desk (ht : a.Tended desk) (hstores : a'.stores = a.stores)
    (hhandlers : desk'.handlers = desk.handlers) :
  a'.Tended desk'
  := by
  intro r y h hr hy
  rw [hstores] at hr
  rw [hhandlers]
  exact ht r y h hr hy

end Archive

/-! ### Operations -/

namespace Scene

theorem InStep.still (hs : s.InStep) (h : Still s s') :
  s'.InStep
  := by
  have hstores : s'.2.stores = s.2.stores := h.archive
  refine ⟨?_, hs.tended.of_desk hstores (by rw [h.desk]), ?_⟩
  · rw [h.desk]
    exact hs.distinct
  · rw [h.stores, h.desk, hstores]
    exact hs.slot

/-- The handler that a store has had before sends where it has sent. -/
theorem InStep.slot_of_grows (hs : s.InStep) (hsound : s.2.Sound s.1.desk.handlers.next)
    {desk : Desk} (hgrows : s.1.desk.Grows desk) {e : EventStore Archive} (he : e ∈ s.1.stores)
    (hx : s.2.stores.get? e.store.ref = some x) {h : HandlerRef} (hh : x.handler = some h) {f : Nat}
    (hsink : desk.handlers.get? h = some (.feed f)) :
  e.feed = some f
  := by
  rcases hgrows.handlers h _ hsink with hold | ⟨hlater, -⟩
  · exact hs.slot e he x h f hx hh hold
  · exact absurd ((hsound.orderly hx).keeps_lt (.inl hh)) (Nat.not_lt.mpr hlater)

end Scene

open Scene (Serves)

namespace StoreDeed

variable {e : EventStore Archive} (hs : s.InStep) (hattached : s.Attached)
  (hsound : s.2.Sound s.1.desk.handlers.next) (honest : e.store.library.Honest)
  (hx : s.2.stores.get? e.store.ref = some x)

include hs

theorem distinct_act (deed : StoreDeed) :
  (deed.act e s).2.1.desk.Distinct
  := by
  rw [desk_act]
  exact ((hs.distinct.readied e deed).process _).concluded e _ deed

include hattached hsound honest hx

theorem turns_inStep {deed : StoreDeed} (hturns : deed.turns = true) :
  Scene.InStep (deed.act e s).2
  := by
  obtain ⟨⟨x', halike, hserves⟩, -⟩ := act_serves honest hx hturns
  refine ⟨distinct_act hs deed, ?_, ?_⟩
  · rw [hserves.desk]
    apply hs.tended.with hattached.exclusive hx hserves.archive (fun _ _ => id)
    · intro h hk
      exact hs.tended e.store.ref x h hx (ArchiveStore.keeps_turn (halike.keeps_iff.mp hk))
    · intro h hr
      refine ⟨(ArchiveStore.release_turn hr).1, ?_⟩
      rw [halike.keeps_iff]
      exact ArchiveStore.not_keeps_turn hr
  · intro e' he' y h f hy hh hsink
    rw [hserves.stores] at he'
    have hold : ∃ y', s.2.stores.get? e'.store.ref = some y' ∧ y'.handler = some h := by
      rw [hserves.archive] at hy
      split at hy
      case isTrue href =>
          obtain rfl := Option.some.inj hy
          rw [halike.handler, ArchiveStore.handler_turn] at hh
          exact ⟨x, href ▸ hx, hh⟩
      case isFalse => exact ⟨y, hy, hh⟩
    obtain ⟨y', hy', hh'⟩ := hold
    exact hs.slot_of_grows hsound (deed.grows_act e s) he' hy' hh' hsink

/-- A handler is installed. -/
theorem install_inStep (sink : Sink) {desk : Desk} (hdesk : desk.Sound)
    (hhandlers : desk.handlers = s.1.desk.handlers)
    (hfeeds : ∀ f, (∃ k, s.1.desk.feeds.get? f = some k) → ∃ k, desk.feeds.get? f = some k)
    (hgrows : s.1.desk.Grows (desk.handler sink).2) :
  let y := e.install sink (desk, s.2)
  y.2.Tended y.1
    ∧ (∀ z h f, y.2.stores.get? e.store.ref = some z → z.handler = some h →
        y.1.handlers.get? h = some (.feed f) → sink = .feed f)
    ∧ ∀ e' ∈ s.1.stores, e'.store.ref ≠ e.store.ref → ∀ z h f,
        y.2.stores.get? e'.store.ref = some z → z.handler = some h →
          y.1.handlers.get? h = some (.feed f) → e'.feed = some f
  := by
  obtain ⟨hy, -, -, hwith, hsink, -⟩ :=
    hattached.install hsound honest hx sink hdesk hhandlers hfeeds
  have hold : ∀ h sink', desk.handlers.get? h = some sink' →
      (desk.handler sink).2.handlers.get? h = some sink' :=
    fun _ _ hh => Table.get?_insert_of_some hh sink
  have hfresh : ¬ x.Keeps desk.handlers.next := by
    intro hk
    have hlt := (hsound.orderly hx).keeps_lt hk
    rw [hhandlers] at hlt
    exact Nat.lt_irrefl _ hlt
  refine ⟨?_, ?_, ?_⟩
  · rw [hy]
    apply (hs.tended.of_desk rfl hhandlers).with hattached.exclusive hx hwith hold
    · rintro h (hk | hk)
      · obtain rfl := Option.some.inj hk
        exact ⟨sink, hdesk.handlers.get?_insert sink⟩
      · obtain ⟨sink', hsink'⟩ := hs.tended e.store.ref x h hx (.inr hk)
        rw [← hhandlers] at hsink'
        exact ⟨sink', hold h sink' hsink'⟩
    · intro h hr
      have hkept := ArchiveStore.release_releaseHandler hr
      refine ⟨.inl hkept, ?_⟩
      rintro (hk | ⟨n, hn⟩)
      · obtain rfl := Option.some.inj hk
        exact hfresh (.inl hkept)
      · exact ArchiveStore.not_pending_releaseHandler hr n hn
  · intro z h f hz hh hf
    rw [hwith, if_pos rfl] at hz
    obtain rfl := Option.some.inj hz
    obtain rfl := Option.some.inj hh
    exact Option.some.inj (hsink.symm.trans hf)
  · intro e' he' hne z h f hz hh hf
    rw [hwith, if_neg hne] at hz
    rw [hy] at hf
    exact hs.slot_of_grows hsound (trans_of Desk.Grows hgrows (Desk.grows_process _ _)) he' hz hh hf

theorem setHandler_inStep (journal : Nat) :
  Scene.InStep ((setHandler journal).act e s).2
  := by
  obtain ⟨htended, hown, hothers⟩ := install_inStep hs hattached hsound honest hx
    (.journal journal) (hattached.desk.letGo e.feed) (Desk.handlers_letGo _ _)
    (fun f hf => Desk.feed_letGo hf e.feed) ((setHandler journal).grows_readied e s.1.desk)
  refine ⟨distinct_act hs _, htended, ?_⟩
  apply Scene.forall_update
  · intro z h f hz hh hf
    cases hown z h f hz hh hf
  · exact hothers

theorem subscribe_inStep (he : e ∈ s.1.stores) :
  Scene.InStep (subscribe.act e s).2
  := by
  have hdistinct := distinct_act (e := e) hs subscribe
  cases hfeed : e.feed with
  | some f =>
      rw [act_subscribe] at hdistinct ⊢
      simp only [EventStore.ownFeed, hfeed] at hdistinct ⊢
      refine ⟨hdistinct, hs.tended, ?_⟩
      apply Scene.forall_update
      · intro z h f' hz hh hf'
        rw [← hfeed]
        exact hs.slot e he z h f' hz hh hf'
      · exact fun e' he' _ => hs.slot e' he'
  | none =>
      let f := s.1.desk.feed.1
      have hgrows := subscribe.grows_readied e s.1.desk
      simp only [readied, hfeed] at hgrows
      have hmore : ∀ f', (∃ k, s.1.desk.feeds.get? f' = some k) →
          ∃ k, s.1.desk.feed.2.feeds.get? f' = some k := by
        rintro f' ⟨k, hk⟩
        exact ⟨k, Table.get?_insert_of_some hk _⟩
      obtain ⟨htended, hown, hothers⟩ := install_inStep hs hattached hsound honest hx
        (.feed f) hattached.desk.feed rfl hmore hgrows
      rw [act_subscribe] at hdistinct ⊢
      simp only [EventStore.ownFeed, hfeed] at hdistinct ⊢
      refine ⟨hdistinct, htended, ?_⟩
      apply Scene.forall_update
      · intro z h f' hz hh hf'
        exact congrArg some (Sink.feed.inj (hown z h f' hz hh hf'))
      · exact hothers

theorem close_inStep :
  Scene.InStep (close.act e s).2
  := by
  obtain ⟨hdesk, hstores⟩ := close_eq honest hx
  refine ⟨distinct_act hs close, ?_, ?_⟩
  · rw [hdesk]
    apply (hs.tended.close hattached.exclusive hx hstores).of_desk rfl
    apply Desk.handlers_letGo
  · intro e' he' z h f hz hh hf
    obtain ⟨hmem, hne⟩ := List.mem_filter.mp he'
    rw [bne_iff_ne] at hne
    rw [hstores, Table.get?_erase, if_neg hne] at hz
    exact hs.slot_of_grows hsound (close.grows_act e s) hmem hz hh hf

theorem act_inStep (he : e ∈ s.1.stores) (deed : StoreDeed) :
  Scene.InStep (deed.act e s).2
  := by
  by_cases hturns : deed.turns = true
  · exact turns_inStep hs hattached hsound honest hx hturns
  · cases deed with
    | setHandler journal => exact setHandler_inStep hs hattached hsound honest hx journal
    | subscribe => exact subscribe_inStep hs hattached hsound honest hx he
    | close => exact close_inStep hs hattached hsound honest hx
    | _ => exact absurd rfl hturns

end StoreDeed

namespace Scene

/-- A store that has just been opened has no handler. -/
theorem Opens.inStep {e : EventStore Archive} (h : Opens s e x s') (hs : s.InStep)
    (hsound : s.Sound) :
  s'.InStep
  := by
  refine ⟨?_, ?_, ?_⟩
  · rw [h.desk]
    exact hs.distinct
  · intro r y g hr hy
    rw [h.desk]
    rcases h.found hr with hr | ⟨-, rfl⟩
    · exact hs.tended r y g hr hy
    · exact absurd hy (h.not_keeps g)
  · intro e' he' y g f hr hg hf
    have hkept : s.2.stores.get? e'.store.ref = some y := by
      rcases h.found hr with hr | ⟨-, rfl⟩
      · exact hr
      · exact absurd (.inl hg) (h.not_keeps g)
    rw [h.desk] at hf
    rw [h.stores] at he'
    rcases List.mem_append.mp he' with he' | he'
    · exact hs.slot e' he' y g f hkept hg hf
    · -- The reference of the new store is not one of an open store.
      obtain rfl := List.mem_singleton.mp he'
      have hfresh := hsound.archive.storeTable.fresh _ (Table.get?_mem hkept)
      exact absurd h.ref (Nat.ne_of_lt hfresh)

theorem InStep.does (hs : s.InStep) (hsound : s.Sound) (hattached : s.Attached) {deed : Deed}
    (h : s.Does deed s') :
  s'.InStep
  := by
  cases h with
  | still h => exact hs.still h
  | onDesk deed =>
      have hhandlers := deed.handlers_act s.1.desk
      refine ⟨?_, hs.tended.of_desk rfl hhandlers, ?_⟩
      · apply hs.distinct.of_found
        · intro h sink hh
          rw [← hhandlers]
          exact hh
        · exact (deed.grows_act s.1.desk).nextFeed
      · intro e he y h f hy hh hf
        have hsink : s.1.desk.handlers.get? h = some (.feed f) := by
          rw [← hhandlers]
          exact hf
        exact hs.slot e he y h f hy hh hsink
  | opens h => exact h.inStep hs hsound
  | onStore u held honest opened _ =>
      have hnoted : Scene.Still s (s.1.note u, s.2) := ⟨rfl, rfl, rfl, rfl⟩
      exact StoreDeed.act_inStep (hs.still hnoted) (hattached.still hnoted) hsound.archive honest
        opened (Holdings.mem_of_store? held).1 _

theorem start_inStep (disk : Disk) :
  (start disk).InStep
  := by
  refine ⟨⟨?_, ?_⟩, ?_, ?_⟩
  · intro h f hh
    cases hh
  · intro h h' f hh
    cases hh
  · intro r x h hr
    cases hr
  · intro e he
    cases he

end Scene

/-- At every point of a program feeds and handlers are in step. -/
theorem Program.Reaches.inStep {β : Type} {p : Program β} {disk : Disk} {x : Scene}
    (h : p.Reaches (Scene.start disk) x) :
  x.Sound ∧ x.Attached ∧ x.InStep
  := by
  apply (h.goes p.only_true).keeps
  · exact fun _ _ hstill hs => hs.still hstill
  · exact fun _ deed _ hsound hattached hs => hs.does hsound hattached (deed.run_does hsound)
  · exact Scene.start_sound disk
  · exact Scene.start_attached disk
  · exact Scene.start_inStep disk

end SymbolIndex
