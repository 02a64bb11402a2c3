import SymbolIndex.Proofs.Events.InStep
import SymbolIndex.Proofs.Events.Replay

/-!
# What a subscriber is supplied with

A receiver gets the batches that the library delivers for the store from its subscription on, until
the store is given another handler or is closed. Then nothing can reach it any more.
-/

namespace SymbolIndex

variable {s s' : Scene} {ref : StoreRef} {x : ArchiveStore} {r : Receiver} {w : Watcher}

/-! ### What is delivered -/

namespace HandlerCall

/-- The batch that a call delivers. -/
def batch? : HandlerCall → Option EventBatch
  | deliver _ n => some n.batch
  | release _ => none

/-- The batches that are delivered, first one first. -/
def batches (calls : List HandlerCall) : List EventBatch := calls.filterMap batch?

theorem batches_append (calls more : List HandlerCall) :
  batches (calls ++ more) = batches calls ++ batches more
  := List.filterMap_append

end HandlerCall

open HandlerCall (batches)

namespace Holdings

/-- The batches that a receiver has taken out, and those that it still can. -/
def got (h : Holdings) (r : Receiver) : List EventBatch :=
  (h.taken.filter fun t => t.1 = .receiver r).map Prod.snd ++ (h.desk.drain r).1

theorem got_eq (h : Holdings) (r : Receiver) :
  h.got r = (Watcher.receiver r).received h
  := rfl

end Holdings

/-- Listening to the store does not begin with a first notification left to the background. -/
def Deed.Waits (ref : StoreRef) (deed : Deed) : Prop := deed ≠ .onStore ref (.start false)

/-- Nothing is left to the background. -/
def Scene.Settled (ref : StoreRef) (s : Scene) : Prop :=
  ∀ x, s.2.stores.get? ref = some x → x.pending = none

/-! ### Stores that leave nothing to the background -/

namespace ArchiveStore

theorem pending_turn (hp : x.pending = none) {t : Turn} (ht : t ≠ .began false) :
  (x.turn t).2.pending = none
  := by
  cases t with
  | rest => exact hp
  | discarded unit =>
      rw [turn, discard]
      split <;> exact hp
  | began wait =>
      cases wait with
      | true => rfl
      | false => exact absurd rfl ht
  | stopped => exact pending_deliverPending _
  | caughtUp => exact pending_deliverPending _

/-- A store that leaves nothing to the background calls its handler only to deliver. -/
theorem deliver_turn {h : HandlerRef} (hp : x.pending = none) (hh : x.handler = some h) (t : Turn) :
  ∀ c ∈ (x.turn t).1, ∃ n, c = .deliver h n
  := by
  have hdeliver : ∀ n, ∀ c ∈ x.deliver n, ∃ n, c = .deliver h n := by
    intro n c hc
    rw [deliver, hh] at hc
    exact ⟨n, List.mem_singleton.mp hc⟩
  intro c hc
  cases t with
  | rest => cases hc
  | discarded unit =>
      rw [turn, discard] at hc
      split at hc
      · split at hc
        · exact hdeliver _ c hc
        · cases hc
      · cases hc
  | began wait =>
      cases wait with
      | true => exact hdeliver _ c hc
      | false => cases hc
  | stopped =>
      have hnone : { x with listening := false }.deliverPending = ([], { x with listening := false }) :=
        deliverPending_of_none hp
      rw [turn, stopListening, hnone] at hc
      cases hc
  | caughtUp =>
      rw [turn, deliverPending_of_none hp] at hc
      cases hc

end ArchiveStore

namespace Scene

theorem Settled.still (hs : s.Settled ref) (h : Still s s') :
  s'.Settled ref
  := by
  have hstores : s'.2.stores = s.2.stores := h.archive
  rw [Settled, hstores]
  exact hs

theorem Settled.does (hs : s.Settled ref) {deed : Deed} (hdeed : deed.Waits ref)
    (h : s.Does deed s') :
  s'.Settled ref
  := by
  cases h with
  | still h => exact hs.still h
  | onDesk deed => exact hs
  | opens h =>
      intro y hy
      rcases h.found hy with hy | ⟨-, rfl⟩
      · exact hs y hy
      · exact h.pending
  | @onStore e x deed u held honest opened _ =>
      intro y hy
      by_cases hclose : deed = .close
      · subst hclose
        obtain ⟨-, hstores⟩ := StoreDeed.close_eq (s := (s.1.note u, s.2)) honest opened
        rw [hstores, Table.get?_erase] at hy
        split at hy
        · cases hy
        · exact hs y hy
      · obtain ⟨x', halike, hwith⟩ :=
          StoreDeed.act_with (s := (s.1.note u, s.2)) honest opened hclose
        rw [hwith] at hy
        split at hy
        case isTrue href =>
            obtain rfl := Option.some.inj hy
            have hpending : x.pending = none := hs x (href ▸ opened)
            rw [halike.pending]
            apply ArchiveStore.pending_turn hpending
            intro hturn
            obtain ⟨rfl, -⟩ := StoreDeed.of_turn hturn
            exact hdeed (congrArg (Deed.onStore · _) href.symm)
        case isFalse => exact hs y hy

end Scene

/-! ### While the store keeps its handler -/

/-- What a handler is delivered gathers where it sends. -/
theorem Watcher.waiting_process {d : Desk} {h : HandlerRef} (hw : w.Stands d)
    (hsink : d.handlers.get? h = some w.sink) {calls : List HandlerCall}
    (hcalls : ∀ c ∈ calls, ∃ n, c = .deliver h n) :
  w.waiting (d.process calls) = w.waiting d ++ batches calls
  := by
  induction calls generalizing d with
  | nil => exact (List.append_nil _).symm
  | cons c calls ih =>
      obtain ⟨n, rfl⟩ := hcalls c List.mem_cons_self
      have hkept : (d.call (.deliver h n)).handlers.get? h = some w.sink := by
        rw [Desk.handlers_call_deliver, hsink]
      have hrest := ih (hw.call (.deliver h n)) hkept fun c hc => hcalls c (List.mem_cons_of_mem _ hc)
      have hfirst : w.waiting (d.call (.deliver h n)) = w.waiting d ++ [n.batch] := by
        rw [waiting_call hw, heard, if_pos hsink]
      calc w.waiting (d.process (.deliver h n :: calls))
        _ = w.waiting (d.call (.deliver h n)) ++ batches calls := hrest
        _ = w.waiting d ++ batches (.deliver h n :: calls) := by
          rw [hfirst, List.append_assoc]
          rfl

/-- What a client may do while a receiver is supplied: the store is neither closed nor given
another handler, and the receiver is not dropped. -/
def Deed.Supplies (r : Receiver) (ref : StoreRef) (deed : Deed) : Prop :=
  deed.Keeps (.receiver r) ref ∧ deed.Waits ref

namespace Scene

/-- A receiver is supplied with what the library delivers. -/
theorem Watches.got_does (hw : s.Watches (.receiver r) ref) (hsettled : s.Settled ref)
    {deed : Deed} (hdeed : deed.Keeps (.receiver r) ref) (h : s.Does deed s') :
  s'.1.got r = s.1.got r ++ batches (deed.calls ref s)
  := by
  obtain ⟨e, x, g, hw⟩ := hw
  cases h with
  | still h hrests =>
      rw [Deed.calls_of_rests hrests]
      apply Watcher.received_of_waiting h.taken
      rw [h.desk]
      exact (List.append_nil _).symm
  | onDesk deed =>
      have hact := Watcher.received_act hw.stands hdeed
      simp only [Holdings.got_eq, Watcher.received, DeskDeed.run, Access.change,
        List.filter_append, List.map_append, List.append_assoc, hact]
      exact congrArg _ (List.append_nil _).symm
  | opens h => cases hdeed
  | @onStore e' x' deed u held honest opened hreads =>
      obtain ⟨rfl, hkeeps⟩ := hdeed.resolve_right (by simp [hreads])
      obtain rfl := Option.some.inj (hw.held.symm.trans held)
      obtain rfl := Option.some.inj (hw.opened.symm.trans opened)
      rw [Deed.calls_onStore held]
      apply Watcher.received_of_waiting (StoreDeed.taken_act e deed _)
      by_cases hturns : deed.turns = true
      · have hcalls := StoreDeed.calls_of_turns honest (s := (s.1.note u, s.2)) opened hturns
        obtain ⟨⟨x', halike, hserves⟩, -⟩ :=
          StoreDeed.act_serves honest (s := (s.1.note u, s.2)) opened hturns
        have hdeliver := ArchiveStore.deliver_turn (hsettled x opened) hw.handler
          (deed.turn (deed.act e (s.1.note u, s.2)).1)
        rw [hserves.desk]
        rw [← hcalls] at hdeliver ⊢
        exact Watcher.waiting_process hw.stands hw.sink hdeliver
      · cases deed with
        | subscribe =>
            have hfeed := hw.feed r rfl
            have hcalls : StoreDeed.subscribe.calls e s.1.desk s.2 = [] := by
              simp only [StoreDeed.calls, hfeed]
            rw [hcalls, StoreDeed.act_subscribe]
            simp only [EventStore.ownFeed, hfeed]
            exact (Watcher.waiting_subscribe hw.stands r.feed).trans (List.append_nil _).symm
        | setHandler journal => cases hkeeps
        | close => cases hkeeps
        | _ => exact absurd rfl hturns

/-- As long as the store keeps its handler a receiver gets what the library delivers. -/
theorem Traces.supplied {calls : List HandlerCall}
    (h : s.Traces (fun _ deed => deed.Supplies r ref) (Deed.calls ref) calls s') (hs : s.Sound)
    (hw : s.Watches (.receiver r) ref) (hsettled : s.Settled ref) :
  s'.Sound ∧ s'.Watches (.receiver r) ref ∧ s'.Settled ref
    ∧ s'.1.got r = s.1.got r ++ batches calls
  := by
  induction h with
  | here => exact ⟨hs, hw, hsettled, (List.append_nil _).symm⟩
  | @deed calls y deed h hdeed ih =>
      obtain ⟨hs', hw', hsettled', hgot⟩ := ih
      have hdoes := deed.run_does hs'
      obtain ⟨t, hshows⟩ := hw'.shows
      refine ⟨(deed.run_leads y hs').1, (hshows.run hs' hdeed.1).1.watches,
        hsettled'.does hdeed.2 hdoes, ?_⟩
      rw [hw'.got_does hsettled' hdeed.1 hdoes, hgot, List.append_assoc,
        ← HandlerCall.batches_append]
  | begun h hmove ih =>
      obtain ⟨hs', hw', hsettled', hgot⟩ := ih
      obtain ⟨hs'', ⟨deed, hdeed, -⟩ | hstill⟩ := hmove.deed_or_still hs'
      · cases hdeed
      · obtain ⟨t, hshows⟩ := hw'.shows
        refine ⟨hs'', (hshows.still hstill).watches, hsettled'.still hstill, ?_⟩
        rw [← hgot]
        apply Watcher.received_of_same hstill.taken
        rw [hstill.desk]

end Scene

/-! ### The beginning of a supply -/

/-- The receiver is one that the desk has handed out. -/
def Desk.Numbers (d : Desk) (r : Receiver) : Prop :=
  ∃ k, d.feeds.get? r.feed = some k ∧ r.subscriber < k.feed.next

namespace Desk

variable {d d' : Desk}

theorem Numbers.grows (h : d.Numbers r) (hgrows : d.Grows d') :
  d'.Numbers r
  := by
  obtain ⟨k, hk, hlt⟩ := h
  obtain ⟨k', hk', hnext, -⟩ := hgrows.feeds r.feed k hk
  exact ⟨k', hk', Nat.lt_of_lt_of_le hlt hnext⟩

/-- A receiver for which something waits has been handed out. -/
theorem Sound.numbers (hd : d.Sound) {batch : EventBatch}
    (h : batch ∈ (Watcher.receiver r).waiting d) :
  d.Numbers r
  := by
  rw [Watcher.waiting] at h
  cases hk : d.feeds.get? r.feed with
  | none =>
      rw [hk] at h
      cases h
  | some k =>
      rw [hk, Option.getD_some, Feed.queue] at h
      cases hfind : k.feed.subscribers.find? fun s => s.id == r.subscriber with
      | none =>
          rw [hfind] at h
          cases h
      | some subscriber =>
          have hid : subscriber.id = r.subscriber := by simpa using List.find?_some hfind
          have hsound := hd.subscribers k (List.mem_map_of_mem (f := Prod.snd) (Table.get?_mem hk))
          have hlt := hsound subscriber (List.mem_of_find?_eq_some hfind)
          rw [hid] at hlt
          exact ⟨k, hk, hlt⟩

end Desk

/-- What is taken out of a receiver has waited for it. -/
theorem DeskDeed.waiting_of_taken {deed : DeskDeed} {d : Desk} {batch : EventBatch}
    (h : (.receiver r, batch) ∈ deed.taken d) :
  batch ∈ (Watcher.receiver r).waiting d
  := by
  cases deed with
  | newJournal => cases h
  | takeJournal j => simp [taken] at h
  | receive r' =>
      obtain ⟨batch', hbatch, heq⟩ := List.mem_map.mp h
      obtain ⟨hr, rfl⟩ := Prod.mk.inj heq
      obtain rfl := Watcher.receiver.inj hr
      exact List.mem_of_head? (Option.mem_toList.mp hbatch)
  | drain r' =>
      obtain ⟨batch', hbatch, heq⟩ := List.mem_map.mp h
      obtain ⟨hr, rfl⟩ := Prod.mk.inj heq
      obtain rfl := Watcher.receiver.inj hr
      exact hbatch
  | drop r' => cases h

/-- Everything that has been taken out of a receiver was taken out of one that had been handed
out. -/
def Scene.Numbered (s : Scene) : Prop :=
  ∀ r batch, (.receiver r, batch) ∈ s.1.taken → s.1.desk.Numbers r

namespace Scene

theorem Numbered.of_taken (h : s.Numbered) (hgrows : s.1.desk.Grows s'.1.desk)
    (htaken : s'.1.taken = s.1.taken) :
  s'.Numbered
  := by
  intro r batch hbatch
  rw [htaken] at hbatch
  exact (h r batch hbatch).grows hgrows

theorem Numbered.does (h : s.Numbered) (hattached : s.Attached) {deed : Deed}
    (hdoes : s.Does deed s') :
  s'.Numbered
  := by
  have hgrows := hdoes.grows
  cases hdoes with
  | still hstill _ => exact h.of_taken hgrows hstill.taken
  | opens hopens => exact h.of_taken hgrows hopens.taken
  | onStore u _ _ _ _ => exact h.of_taken hgrows (StoreDeed.taken_act _ _ _)
  | onDesk deed =>
      intro r batch hbatch
      rcases List.mem_append.mp hbatch with hbatch | hbatch
      · exact (h r batch hbatch).grows hgrows
      · exact (hattached.desk.numbers (DeskDeed.waiting_of_taken hbatch)).grows hgrows

theorem grows_ownFeed (e : EventStore Archive) (s : Desk × Archive) :
  s.1.Grows (e.ownFeed s).2.1
  := by
  cases hfeed : e.feed with
  | some f =>
      simp only [EventStore.ownFeed, hfeed]
      exact refl_of Desk.Grows s.1
  | none =>
      have hready := StoreDeed.subscribe.grows_readied e s.1
      simp only [StoreDeed.readied, hfeed] at hready
      simp only [EventStore.ownFeed, hfeed]
      exact trans_of Desk.Grows hready (Desk.grows_process _ _)

/-- A subscriber has got nothing yet. -/
theorem Numbered.got_subscribe (h : s.Numbered) (hs : s.Sound) (hattached : s.Attached)
    {e : EventStore Archive} (he : s.1.store? ref = some e)
    (hr : (s.after ref .subscribe).1.receivers = s.1.receivers ++ [r]) :
  (s.after ref .subscribe).1.got r = []
  := by
  obtain ⟨rfl, hmem, honest, x, hx⟩ := hs.store_held he
  let y := e.ownFeed (s.1.desk, s.2)
  let u : Use := ⟨e.store.directory, e.feed.isNone⟩
  obtain ⟨hdesk, -, ⟨-, -, -, -, -, k, hk⟩, -⟩ :=
    StoreDeed.ownFeed_attached hattached hs.archive honest hx hmem
  have hafter : s.after e.store.ref .subscribe
      = ({ (s.1.note u).update { e with feed := some y.1 } with
            desk := (y.2.1.subscribe y.1).2
            receivers := s.1.receivers ++ [(y.2.1.subscribe y.1).1] }, y.2.2) :=
    congrArg Prod.snd (Deed.run_onStore he .subscribe)
  rw [hafter] at hr ⊢
  obtain rfl : (y.2.1.subscribe y.1).1 = r := by
    exact List.singleton_inj.mp (List.append_cancel_left hr)
  have hk' : y.2.1.feeds.get? y.1 = some k := hk
  have hsound : k.feed.Sound :=
    hdesk.subscribers k (List.mem_map_of_mem (f := Prod.snd) (Table.get?_mem hk))
  -- The number of the subscriber is the next one of its feed.
  have htaken : (s.1.taken.filter fun t => t.1 = .receiver (y.2.1.subscribe y.1).1) = [] := by
    rw [List.filter_eq_nil_iff]
    rintro ⟨w, batch⟩ hbatch hw
    obtain rfl : w = .receiver (y.2.1.subscribe y.1).1 := by simpa using hw
    have hnumbers := (h _ batch hbatch).grows (grows_ownFeed e (s.1.desk, s.2))
    obtain ⟨k', hfound, hlt⟩ := hnumbers
    obtain rfl := Option.some.inj (hk'.symm.trans hfound)
    simp [Desk.subscribe, hk', Feed.subscribe] at hlt
  have hwaiting : ((y.2.1.subscribe y.1).2.drain (y.2.1.subscribe y.1).1).1 = [] := by
    simp [Desk.drain, Desk.subscribe, Desk.modifyFeed, Table.get?_modify, hk', Feed.drain,
      hsound.queue_subscribe]
  rw [Holdings.got]
  exact congrArg₂ (fun t q => t.map Prod.snd ++ q) htaken hwaiting

end Scene

end SymbolIndex
