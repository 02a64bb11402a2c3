import SymbolIndex.Proofs.Events.CutOff

/-!
# Subscriptions to a store

At every point of a program the feed that a store keeps is the one to which its handler sends. A
subscriber gets every batch that the library delivers for the store, once and in order, until the
store is given another handler or is closed. It can take what it still holds then, and is
disconnected for good.
-/

namespace SymbolIndex

variable {s s' : Scene} {ref : StoreRef} {x : ArchiveStore} {r : Receiver}

open HandlerCall (batches)

namespace Scene

/-- What a receiver gets of a store from its subscription on. -/
structure Subscribed (s : Scene) (r : Receiver) (ref : StoreRef) : Prop where
  /-- It gets what the library delivers as long as the store keeps its handler. -/
  supplied : ∀ s' calls,
    s.Traces (fun _ deed => deed.Supplies r ref) (Deed.calls ref) calls s' →
      s'.1.got r = batches calls ∧ s'.1.desk.connected r = true
  /-- It has that and nothing more when the store has been given another handler or has been
  closed, whatever is done then. -/
  cutOff : ∀ s' calls,
    s.Traces (fun _ deed => deed.Supplies r ref) (Deed.calls ref) calls s' →
      ∀ deed : StoreDeed, deed.Ends → ∀ s'',
        (s'.after ref deed).Goes (fun _ deed => deed.Spares (.receiver r)) s'' →
          s''.1.got r = batches calls ∧ s''.1.desk.connected r = false

/-- Feeds, handlers and subscribers of a store are in step. -/
structure Subscribes (s : Scene) (ref : StoreRef) : Prop where
  /-- The store keeps the feed to which its handler sends. -/
  slot : ∀ e, s.1.store? ref = some e → ∃ x, s.2.stores.get? ref = some x ∧
    ∀ f, e.feed = some f ↔ ∃ h, x.handler = some h ∧ s.1.desk.handlers.get? h = some (.feed f)
  subscriber : (s.1.store? ref).isSome →
    ∃ r, (s.after ref .subscribe).1.receivers = s.1.receivers ++ [r]
      ∧ (s.after ref .subscribe).Subscribed r ref
  /-- The first subscriber replaces a handler, which is let go of and gets nothing more. -/
  replaces : ∀ e x h, s.1.store? ref = some e → e.feed = none → s.2.stores.get? ref = some x →
    x.handler = some h → (Deed.onStore ref .subscribe).calls ref s = [.release h] ∧
      ∀ s' calls, (s.after ref .subscribe).Traces (fun _ _ => True) (Deed.calls ref) calls s' →
        s'.1.desk.handlers.get? h = none ∧ ∀ n, .deliver h n ∉ calls
  /-- A further subscriber installs nothing. -/
  shares : ∀ e f, s.1.store? ref = some e → e.feed = some f →
    (Deed.onStore ref .subscribe).calls ref s = [] ∧ (s.after ref .subscribe).2 = s.2
      ∧ (s.after ref .subscribe).1.desk.handlers = s.1.desk.handlers

theorem Watches.connected (hw : s.Watches (.receiver r) ref) :
  s.1.desk.connected r = true
  := by
  obtain ⟨e, x, h, hw⟩ := hw
  have hmem : Sink.feed r.feed ∈ s.1.desk.handlers.values :=
    List.mem_map_of_mem (f := Prod.snd) (Table.get?_mem hw.sink)
  simp [Desk.connected, hmem]

variable (hs : s.Sound) (hattached : s.Attached) (hinStep : s.InStep) (hsettled : s.Settled ref)

include hs hattached hinStep hsettled

theorem Watches.subscribed (hw : s.Watches (.receiver r) ref) (hgot : s.1.got r = []) :
  s.Subscribed r ref
  := by
  constructor
  · intro s' calls ht
    obtain ⟨-, hw', -, hgot'⟩ := ht.supplied hs hw hsettled
    rw [hgot', hgot]
    exact ⟨List.nil_append _, hw'.connected⟩
  · intro s' calls ht deed hends s'' hgoes
    obtain ⟨hs', hw', hsettled', hgot'⟩ := ht.supplied hs hw hsettled
    rw [hgot, List.nil_append] at hgot'
    obtain ⟨-, hattached', hinStep'⟩ := ht.goes.keeps
      (fun _ _ hstill h => InStep.still h hstill)
      (fun _ deed _ hs hattached h => InStep.does h hs hattached (deed.run_does hs))
      hs hattached hinStep
    have hcut := hw'.cutOff hs' hinStep' hattached' hsettled' hends
    rw [hgot'] at hcut
    exact hcut.goes hgoes ((Deed.onStore ref deed).run_leads s' hs').1
      (hattached'.run hs' (.onStore ref deed))

omit hattached hinStep in
/-- The first subscriber of a store takes the place of its handler. -/
theorem subscribe_replaces {e : EventStore Archive} (he : s.1.store? ref = some e)
    (hfeed : e.feed = none) (hx : s.2.stores.get? ref = some x) {h : HandlerRef}
    (hh : x.handler = some h) :
  (Deed.onStore ref .subscribe).calls ref s = [.release h]
    ∧ (s.after ref .subscribe).1.desk.Gone h
  := by
  obtain ⟨rfl, -, honest, -⟩ := hs.store_held he
  have hinstalls : StoreDeed.subscribe.installs e = true := congrArg Option.isNone hfeed
  have hrelease : x.releaseHandler = [.release h] := by
    simp [ArchiveStore.releaseHandler, hh, hsettled x hx]
  let u : Use := ⟨e.store.directory, StoreDeed.subscribe.installs e⟩
  have hcalls : StoreDeed.subscribe.calls e s.1.desk s.2 = [.release h] := by
    rw [StoreDeed.calls_of_installs honest hx hinstalls, hrelease]
  have hafter : s.after e.store.ref .subscribe
      = (StoreDeed.subscribe.act e (s.1.note u, s.2)).2 :=
    congrArg Prod.snd (Deed.run_onStore he .subscribe)
  have hgrows := StoreDeed.subscribe.grows_act e (s.1.note u, s.2)
  refine ⟨(Deed.calls_onStore he _).trans hcalls, ?_, ?_⟩
  · have hcalled : StoreDeed.subscribe.calls e (s.1.note u).desk s.2 = [.release h] := hcalls
    rw [hafter, StoreDeed.desk_act]
    simp only [hcalled]
    exact (Table.get?_erase h h).trans (if_pos rfl)
  · rw [hafter]
    exact Nat.lt_of_lt_of_le ((hs.archive.orderly hx).keeps_lt (.inl hh)) hgrows.nextHandler

omit hs hattached hinStep hsettled in
/-- A further subscriber of a store leaves the library alone. -/
theorem subscribe_shares {e : EventStore Archive} (he : s.1.store? ref = some e) {f : Nat}
    (hfeed : e.feed = some f) :
  (Deed.onStore ref .subscribe).calls ref s = [] ∧ (s.after ref .subscribe).2 = s.2
    ∧ (s.after ref .subscribe).1.desk.handlers = s.1.desk.handlers
  := by
  constructor
  · rw [Deed.calls_onStore he]
    simp only [StoreDeed.calls, hfeed]
  · rw [after, Deed.run_onStore he]
    simp only [StoreDeed.act_subscribe, EventStore.ownFeed, hfeed]
    exact ⟨trivial, rfl⟩

end Scene

theorem Program.Reaches.numbered {β : Type} {p : Program β} {disk : Disk}
    (h : p.Reaches (Scene.start disk) s) :
  s.Numbered
  := by
  obtain ⟨-, -, hnumbered⟩ := (h.goes p.only_true).keeps
    (fun _ _ hstill h => Scene.Numbered.of_taken h
      (Desk.grows_of_same _ (by rw [hstill.desk]) (by rw [hstill.desk])) hstill.taken)
    (fun _ deed _ hs hattached h => Scene.Numbered.does h hattached (deed.run_does hs))
    (Scene.start_sound disk) (Scene.start_attached disk) (fun _ _ h => by cases h)
  exact hnumbered

/-- At every point of every program that does not leave the first notification of the store to the
background, feeds, handlers and subscribers of the store are in step. -/
theorem Program.subscriptions_in_step {β : Type} {p : Program β} {disk : Disk}
    (h : p.Reaches (Scene.start disk) s) (ref : StoreRef) (hwaits : p.Only (Deed.Waits ref)) :
  s.Subscribes ref
  := by
  obtain ⟨hs, hattached, hinStep⟩ := h.inStep
  obtain ⟨-, -, hsettled⟩ := (h.goes hwaits).keeps
    (fun _ _ hstill h => Scene.Settled.still h hstill)
    (fun _ deed hdeed hs _ h => Scene.Settled.does h hdeed (deed.run_does hs))
    (Scene.start_sound disk) (Scene.start_attached disk)
    (fun (_ : ArchiveStore) hx => by cases hx)
  constructor
  · intro e he
    obtain ⟨rfl, hmem, -, x, hx⟩ := hs.store_held he
    refine ⟨x, hx, fun f => ⟨?_, ?_⟩⟩
    · intro hfeed
      obtain ⟨y, g, hy, hg, hsink, -⟩ := hattached.feeds e hmem f hfeed
      obtain rfl := Option.some.inj (hx.symm.trans hy)
      exact ⟨g, hg, hsink⟩
    · rintro ⟨g, hg, hsink⟩
      exact hinStep.slot e hmem x g f hx hg hsink
  · intro he
    obtain ⟨e, he⟩ := Option.isSome_iff_exists.mp he
    obtain ⟨r, hr, hw⟩ := Scene.watches_subscribe hs hattached he
    let deed : Deed := .onStore ref .subscribe
    have hwaited : deed.Waits ref := by simp [deed, Deed.Waits]
    have hdoes := deed.run_does hs
    exact ⟨r, hr, hw.subscribed (deed.run_leads s hs).1 (hattached.run hs deed)
      (hinStep.does hs hattached hdoes) (hsettled.does hwaited hdoes)
      (h.numbered.got_subscribe hs hattached he hr)⟩
  · intro e x g he hfeed hx hg
    obtain ⟨hcalls, hgone⟩ := Scene.subscribe_replaces hs hsettled he hfeed hx hg
    refine ⟨hcalls, fun s' calls ht => ?_⟩
    let deed : Deed := .onStore ref .subscribe
    obtain ⟨-, -, -, hgone', hnone⟩ := ht.gone (deed.run_leads s hs).1 (hattached.run hs deed)
      (hinStep.does hs hattached (deed.run_does hs)) hgone
    exact ⟨hgone'.1, hnone⟩
  · intro e f he hfeed
    exact Scene.subscribe_shares he hfeed

/-- A store that listens has a handler to replace. -/
theorem Program.subscriptions_in_step_listening :
  Scene.listening.Watches (.journal 0) 0 ∧ Scene.listening.Subscribes 0
  := by
  have hwaits : Program.listening.Only (Deed.Waits 0) := by
    simp [Program.listening, Program.deeds, Program.Only, Deed.Waits]
  exact ⟨Scene.listening_tells.1, subscriptions_in_step (reaches_end _ _) 0 hwaits⟩

end SymbolIndex
