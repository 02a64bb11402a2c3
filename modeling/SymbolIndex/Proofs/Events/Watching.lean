import SymbolIndex.Proofs.Events.Attachment
import SymbolIndex.Proofs.Events.Stream
import SymbolIndex.Proofs.Vocabulary

/-!
# Stores that are watched

A store is watched when its handler sends to a journal that is there, or to the feed of a receiver
that has not been dropped. What is received then is the stream of the store, turn by turn.
-/

namespace SymbolIndex

variable {s s' : Scene} {w : Watcher} {ref : StoreRef}

/-- What is found under a reference when something has been put in the place of what had its
reference. -/
theorem find?_replaced {α : Type} (ref? : α → Nat) (l : List α) (a : α) (r : Nat) :
  (l.map fun b => if ref? b = ref? a then a else b).find? (fun b => ref? b == r)
    = if r = ref? a then (l.find? fun b => ref? b == r).map fun _ => a
      else l.find? fun b => ref? b == r
  := by
  have hkept : (fun b => ref? b == r) ∘ (fun b => if ref? b = ref? a then a else b)
      = fun b => ref? b == r := by
    funext b
    by_cases hb : ref? b = ref? a <;> simp [hb]
  rw [List.find?_map, hkept]
  cases hfound : l.find? fun b => ref? b == r with
  | none => simp
  | some b =>
      obtain rfl : ref? b = r := by simpa using List.find?_some hfound
      split
      case isTrue href => simp [href]
      case isFalse href => simp [href]

theorem Holdings.store?_replaced (h : Holdings) (e : EventStore Archive) (r : StoreRef) :
  (h.update e).store? r = if r = e.store.ref then (h.store? r).map fun _ => e else h.store? r
  := find?_replaced (fun e : EventStore Archive => e.store.ref) h.stores e r

/-- A store that has been put in the place of one of its reference is held. -/
theorem Holdings.store?_update {h : Holdings} {e e' : EventStore Archive}
    (he : h.store? ref = some e) (href : e'.store.ref = ref) :
  (h.update e').store? ref = some e'
  := by
  rw [store?_replaced, if_pos href.symm, he]
  rfl

/-- A notification is read as the batch that it tells. -/
theorem ArchiveStore.batch_notification (isInitial : Bool) (kind : UnitEventKind)
    (units : List String) :
  (notification isInitial kind units).batch = .telling isInitial kind units
  := by
  have hkind : Vocabulary.ofCode? (Vocabulary.code kind) = some kind :=
    Vocabulary.ofCode?_eq_some.mpr rfl
  let view : String → EventView := fun u => ⟨Vocabulary.code kind, some (Text.octets u)⟩
  have havailable : (notification isInitial kind units).available = units.map view := by
    have hall : (units.map fun u => some (view u)).take units.length
        = units.map fun u => some (view u) := List.take_of_length_le (by simp)
    have hdefined : (units.map fun u => some (view u)).filterMap id = units.map view := by
      rw [List.filterMap_map]
      exact congrFun List.filterMap_eq_map units
    exact (congrArg (List.filterMap id) hall).trans hdefined
  have hinfo : ∀ u, (view u).info = ⟨some kind, u⟩ := by
    intro u
    simp [view, EventView.info, hkind, Text.read_octets]
  rw [NotificationView.batch, havailable, List.map_map]
  exact congrArg (EventBatch.mk isInitial) (List.map_congr_left fun u _ => hinfo u)

/-- What is left of a store when everything has been delivered. -/
theorem ArchiveStore.deliverPending_snd (x : ArchiveStore) :
  x.deliverPending.2 = { x with pending := none }
  := by
  cases hp : x.pending with
  | none => rw [deliverPending_of_none hp, ← hp]
  | some p => simp [deliverPending, hp]

namespace Watcher

/-- The handler of a store that is held sends to what the watcher gathers. -/
structure Watching (w : Watcher) (ref : StoreRef) (s : Scene) (e : EventStore Archive)
    (x : ArchiveStore) (h : HandlerRef) : Prop where
  held : s.1.store? ref = some e
  opened : s.2.stores.get? ref = some x
  handler : x.handler = some h
  sink : s.1.desk.handlers.get? h = some w.sink
  stands : w.Stands s.1.desk
  feed : ∀ r, w = .receiver r → e.feed = some r.feed

/-- What matters of a store to the watcher. -/
def stream (w : Watcher) (h : Holdings) (x : ArchiveStore) : Stream where
  received := w.received h
  names := x.contents.unitNames
  listening := x.listening
  pending := x.pending.bind fun p =>
    if h.desk.handlers.get? p.1 = some w.sink then some p.2.batch else none

theorem stream_of_alike {x x' : ArchiveStore} (h : Holdings) (halike : x.Alike x') :
  w.stream h x' = w.stream h x
  := by
  simp only [stream, halike.units, halike.listening, halike.pending]

/-- Batches that are added while nothing is taken out. -/
theorem received_of_waiting {h h' : Holdings} (htaken : h'.taken = h.taken)
    {batches : List EventBatch} (hwaiting : w.waiting h'.desk = w.waiting h.desk ++ batches) :
  w.received h' = w.received h ++ batches
  := by
  rw [received, received, htaken, hwaiting, List.append_assoc]

/-- Calls of the handler that add batches. -/
theorem stream_add {h h' : Holdings} (htaken : h'.taken = h.taken) {batches : List EventBatch}
    (hwaiting : w.waiting h'.desk = w.waiting h.desk ++ batches)
    (hhandlers : h'.desk.handlers = h.desk.handlers) (x : ArchiveStore) :
  w.stream h' x = (w.stream h x).add batches
  := by
  simp only [stream, Stream.add, received_of_waiting htaken hwaiting, hhandlers]

/-- Nothing happens at the desk. -/
theorem stream_same {h h' : Holdings} (htaken : h'.taken = h.taken) (hdesk : h'.desk = h.desk)
    (x : ArchiveStore) :
  w.stream h' x = w.stream h x
  := by
  simp only [stream, received, htaken, hdesk]

end Watcher

/-- The store is watched, and the watcher has its stream. -/
def Scene.Shows (s : Scene) (w : Watcher) (ref : StoreRef) (t : Stream) : Prop :=
  ∃ e x h, w.Watching ref s e x h ∧ w.stream s.1 x = t

/-- The store is watched. -/
def Scene.Watches (s : Scene) (w : Watcher) (ref : StoreRef) : Prop :=
  ∃ e x h, w.Watching ref s e x h

/-! ### Turns -/

namespace Watcher.Watching

variable {e : EventStore Archive} {x : ArchiveStore} {h : HandlerRef}
  (hw : w.Watching ref s e x h)

include hw

/-- A notification for the handler is received. -/
theorem waiting_deliver (n : NotificationView) :
  w.waiting (s.1.desk.process (x.deliver n)) = w.waiting s.1.desk ++ [n.batch]
    ∧ (s.1.desk.process (x.deliver n)).handlers = s.1.desk.handlers
  := by
  have hcalls : x.deliver n = [.deliver h n] := by
    simp [ArchiveStore.deliver, hw.handler]
  rw [hcalls]
  constructor
  · have hheard : w.heard s.1.desk (.deliver h n) = [n.batch] := by
      simp [heard, hw.sink]
    rw [← hheard]
    exact waiting_call hw.stands (.deliver h n)
  · exact Desk.handlers_call_deliver h n

/-- What has been left to the background is received if it is for the watcher. -/
theorem waiting_deliverPending :
  w.waiting (s.1.desk.process x.deliverPending.1)
    = w.waiting s.1.desk ++ (w.stream s.1 x).pending.toList
  := by
  cases hp : x.pending with
  | none =>
      rw [ArchiveStore.deliverPending_of_none hp]
      simp [stream, hp, Desk.process]
  | some p =>
      obtain ⟨g, n⟩ := p
      have hcalls : x.deliverPending.1
          = .deliver g n :: if x.handler = some g then [] else [.release g] := by
        simp [ArchiveStore.deliverPending, hp]
      have hrest : ∀ d : Desk, w.Stands d →
          w.waiting (d.process (if x.handler = some g then [] else [.release g]))
            = w.waiting d := by
        intro d hd
        split
        · rfl
        · exact (waiting_call hd (.release g)).trans (List.append_nil _)
      have hheard : w.heard s.1.desk (.deliver g n) = (w.stream s.1 x).pending.toList := by
        by_cases hg : s.1.desk.handlers.get? g = some w.sink <;> simp [heard, stream, hp, hg]
      rw [hcalls, ← hheard, ← waiting_call hw.stands]
      exact hrest _ (hw.stands.call _)

variable {h' : Holdings}

/-- A batch that is told is added to the stream. -/
theorem stream_deliver (n : NotificationView) (hdesk : h'.desk = s.1.desk.process (x.deliver n))
    (htaken : h'.taken = s.1.taken) :
  w.stream h' x = (w.stream s.1 x).add [n.batch]
  := by
  obtain ⟨hwaiting, hhandlers⟩ := hw.waiting_deliver n
  apply stream_add htaken
  · rw [hdesk, hwaiting]
  · rw [hdesk, hhandlers]

theorem stream_discard (unit : String) (hdesk : h'.desk = s.1.desk.process (x.discard unit).1)
    (htaken : h'.taken = s.1.taken) :
  w.stream h' (x.discard unit).2 = (w.stream s.1 x).after (.discarded unit)
  := by
  by_cases hunit : unit ∈ x.contents.unitNames
  · let removed : NotificationView := ArchiveStore.notification false .removed [unit]
    have hafter : (w.stream s.1 x).after (.discarded unit)
        = { (w.stream s.1 x).add (if x.listening then [.telling false .removed [unit]] else []) with
            names := x.contents.unitNames.filter fun u => u != unit } := if_pos hunit
    have hdiscard : x.discard unit
        = (if x.listening then x.deliver removed else [],
            { x with contents := x.contents.discardUnit unit }) := if_pos hunit
    have hstream : w.stream h' { x with contents := x.contents.discardUnit unit }
        = { w.stream h' x with names := x.contents.unitNames.filter fun u => u != unit } := by
      simp only [stream, StoreContents.unitNames_discardUnit]
    -- The names are filtered in either case. Only the batch depends on whether the store listens.
    rw [hdiscard] at hdesk ⊢
    rw [hafter, hstream]
    cases hlistening : x.listening with
    | true =>
        simp only [hlistening, ↓reduceIte] at hdesk ⊢
        rw [hw.stream_deliver removed hdesk htaken, ArchiveStore.batch_notification]
    | false =>
        simp only [hlistening, Bool.false_eq_true, ↓reduceIte] at hdesk ⊢
        rw [stream_same htaken hdesk]
        simp [Stream.add]
  · have hafter : (w.stream s.1 x).after (.discarded unit) = w.stream s.1 x := if_neg hunit
    have hdiscard : x.discard unit = ([], x) := if_neg hunit
    rw [hdiscard] at hdesk ⊢
    rw [hafter]
    exact stream_same htaken hdesk x

theorem stream_listen (wait : Bool) (hdesk : h'.desk = s.1.desk.process (x.listen wait).1)
    (htaken : h'.taken = s.1.taken) :
  w.stream h' (x.listen wait).2 = (w.stream s.1 x).after (.began wait)
  := by
  cases wait with
  | true =>
      have hreceived := congrArg Stream.received (hw.stream_deliver _ hdesk htaken)
      rw [ArchiveStore.batch_notification] at hreceived
      simp only [stream] at hreceived
      simp only [ArchiveStore.listen, stream, hreceived]
      rfl
  | false =>
      have hsame : h'.desk = s.1.desk := hdesk
      have hreceived := congrArg Stream.received (w.stream_same htaken hsame x)
      simp only [stream] at hreceived
      simp only [ArchiveStore.listen, stream, hreceived, hw.handler, hsame, Option.map_some,
        Option.bind_some, hw.sink, ArchiveStore.batch_notification, Bool.false_eq_true, ↓reduceIte]
      rfl

/-- A turn of the store does to the stream what it is said to do. -/
theorem stream_turn (t : Turn) (hdesk : h'.desk = s.1.desk.process (x.turn t).1)
    (htaken : h'.taken = s.1.taken) :
  w.stream h' (x.turn t).2 = (w.stream s.1 x).after t
  := by
  cases t with
  | rest => exact stream_same htaken hdesk x
  | discarded unit => exact hw.stream_discard unit hdesk htaken
  | began wait => exact hw.stream_listen wait hdesk htaken
  | stopped =>
      have hcalls : (x.turn .stopped).1 = x.deliverPending.1 := by
        simp only [ArchiveStore.turn, ArchiveStore.stopListening, ArchiveStore.deliverPending]
        split <;> rfl
      rw [hcalls] at hdesk
      have hreceived := received_of_waiting htaken (hdesk ▸ hw.waiting_deliverPending)
      simp only [ArchiveStore.turn, ArchiveStore.stopListening, ArchiveStore.deliverPending_snd,
        stream, hreceived]
      rfl
  | caughtUp =>
      have hreceived := received_of_waiting htaken (hdesk ▸ hw.waiting_deliverPending)
      simp only [ArchiveStore.turn, ArchiveStore.deliverPending_snd, stream, hreceived]
      rfl

/-- An operation that neither closes the store nor replaces its handler. -/
theorem turn {t : Turn} {x' : ArchiveStore} (halike : (x.turn t).2.Alike x')
    (hserves : Scene.Serves ref (x.turn t).1 x' s s') :
  w.Watching ref s' e x' h ∧ w.stream s'.1 x' = (w.stream s.1 x).after t
  := by
  have hkept : .release h ∉ (x.turn t).1 := fun hr => (ArchiveStore.release_turn hr).2 hw.handler
  constructor
  · constructor
    · rw [Holdings.store?, hserves.stores]
      exact hw.held
    · rw [hserves.archive, if_pos rfl]
    · rw [halike.handler, ArchiveStore.handler_turn, hw.handler]
    · rw [hserves.desk, Desk.get?_process hkept, hw.sink]
    · rw [hserves.desk]
      exact hw.stands.process _
    · exact hw.feed
  · rw [Watcher.stream_of_alike _ halike]
    exact hw.stream_turn t hserves.desk hserves.taken

end Watcher.Watching

/-! ### Operations -/

/-- The operation neither closes the store nor gives it a handler in place of the watcher's. A
receiver shares its feed with further subscribers. -/
def StoreDeed.Keeps (w : Watcher) : StoreDeed → Prop
  | setHandler _ | close => False
  | subscribe => ∃ r, w = .receiver r
  | _ => True

/-- The operation leaves the watcher of a store in place. It opens no store, and does no more with
another store than read. -/
def Deed.Keeps (w : Watcher) (ref : StoreRef) : Deed → Prop
  | onStore store deed => store = ref ∧ deed.Keeps w ∨ deed.reads = true
  | onDesk deed => deed.Spares w
  | openStore .. => False
  | _ => True

/-- What has happened to the store when an operation has ended in some way. -/
def Deed.turn : Deed → Except Halt Unit → Turn
  | onStore _ deed, result => deed.turn result
  | _, _ => .rest

namespace Scene.Shows

variable {t : Stream} (h : s.Shows w ref t)

include h

theorem still (hstill : Still s s') :
  s'.Shows w ref t
  := by
  obtain ⟨e, x, g, hw, rfl⟩ := h
  obtain ⟨hw', hstream⟩ := hw.turn (t := .rest) (.refl x)
    (Scene.serves_of_still hw.opened hstill)
  exact ⟨e, x, g, hw', hstream⟩

theorem onDesk {deed : DeskDeed} (hdeed : deed.Spares w) :
  Scene.Shows (deed.run s).2 w ref t
  := by
  obtain ⟨e, x, g, hw, rfl⟩ := h
  refine ⟨e, x, g, ⟨hw.held, hw.opened, hw.handler, ?_, hw.stands.act hdeed, hw.feed⟩, ?_⟩
  · rw [DeskDeed.run, Access.change, deed.handlers_act]
    exact hw.sink
  · have hreceived : w.received (deed.run s).2.1 = w.received s.1 := by
      have hact := Watcher.received_act hw.stands hdeed
      simp only [Watcher.received, DeskDeed.run, Access.change, List.filter_append,
        List.map_append, List.append_assoc, hact]
    have hhandlers : (deed.run s).2.1.desk.handlers = s.1.desk.handlers :=
      deed.handlers_act s.1.desk
    simp only [Watcher.stream, hreceived, hhandlers]

/-- A further subscriber leaves the stream of a receiver alone. -/
theorem subscribe {r : Receiver} (hr : w = .receiver r) :
  (s.after ref .subscribe).Shows w ref t
  := by
  obtain ⟨e, x, g, hw, rfl⟩ := h
  have hfeed := hw.feed r hr
  have href := Holdings.ref_of_store? hw.held
  have hheld : (s.1.update { e with feed := some r.feed }).store? ref
      = some { e with feed := some r.feed } := Holdings.store?_update hw.held href
  have hwaiting := Watcher.waiting_subscribe hw.stands r.feed
  rw [Scene.after, Deed.run_onStore hw.held]
  simp only [StoreDeed.act_subscribe, EventStore.ownFeed, hfeed]
  refine ⟨{ e with feed := some r.feed }, x, g, ⟨hheld, hw.opened, hw.handler, hw.sink,
    hw.stands.subscribe _, ?_⟩, ?_⟩
  · rintro r' hr'
    rw [Watcher.receiver.inj (hr.symm.trans hr')]
  · let h' : Holdings := { s.1 with desk := (s.1.desk.subscribe r.feed).2 }
    have hnone : w.waiting h'.desk = w.waiting s.1.desk ++ [] :=
      hwaiting.trans (List.append_nil _).symm
    have htaken : h'.taken = s.1.taken := rfl
    have hhandlers : h'.desk.handlers = s.1.desk.handlers := rfl
    have hstream := w.stream_add htaken hnone hhandlers x
    simp only [Stream.add, List.append_nil] at hstream
    exact hstream

end Scene.Shows

/-- To read does not concern the handler. -/
theorem StoreDeed.turn_of_reads {deed : StoreDeed} (h : deed.reads = true)
    (result : Except Halt Unit) :
  deed.turn result = .rest
  := by
  cases deed with
  | unitNames _ | unitNamesFiltered _ | unitName _ | unitTime _ | openRecord _ | openUnit _ => rfl
  | _ => cases h

/-- What an operation does to the stream of a store that is watched. -/
theorem Scene.Shows.run {t : Stream} (h : s.Shows w ref t) (hs : s.Sound) {deed : Deed}
    (hdeed : deed.Keeps w ref) :
  Scene.Shows (deed.run s).2 w ref (t.after (deed.turn (deed.run s).1))
    ∧ ∀ wait, deed.turn (deed.run s).1 = .began wait → t.listening = false
  := by
  cases deed with
  | onDesk deed => exact ⟨h.onDesk hdeed, fun _ ht => by cases ht⟩
  | openStore l path options => cases hdeed
  | changeDisk f | createOptions l | addMapping options source target | disposeOptions options
  | onRecord record deed | onUnit unit deed | onItem l deed =>
      refine ⟨h.still (Deed.run_still ?_ hs), fun _ ht => by cases ht⟩
      trivial
  | onStore store deed =>
      by_cases hreads : deed.reads = true
      · have hrest := StoreDeed.turn_of_reads hreads ((Deed.onStore store deed).run s).1
        simp only [Deed.turn, hrest]
        have hstill : Still s ((Deed.onStore store deed).run s).2 := Deed.run_still hreads hs
        refine ⟨h.still hstill, ?_⟩
        intro _ ht
        cases ht
      · obtain ⟨rfl, hkeeps⟩ := hdeed.resolve_right hreads
        by_cases hturns : deed.turns = true
        · obtain ⟨e, x, g, hw, rfl⟩ := h
          obtain ⟨rfl, -, honest, -⟩ := hs.store_held hw.held
          let u : Use := ⟨e.store.directory, deed.installs e⟩
          obtain ⟨⟨x', halike, hserves⟩, hbegan⟩ :=
            StoreDeed.act_serves honest (s := (s.1.note u, s.2)) hw.opened hturns
          obtain ⟨hw', hstream⟩ := hw.turn halike hserves.of_note
          rw [Deed.run_onStore hw.held]
          exact ⟨⟨e, x', g, hw', hstream⟩, hbegan⟩
        · cases deed with
          | subscribe =>
              obtain ⟨r, hr⟩ := hkeeps
              exact ⟨h.subscribe hr, fun _ ht => by cases ht⟩
          | setHandler journal => cases hkeeps
          | close => cases hkeeps
          | _ => exact absurd rfl hturns

/-! ### Runs -/

/-- The stream of a store goes on with a client, in the turns that its operations are. -/
theorem Scene.Goes.shows {allowed : Scene → Deed → Prop} (turns : Stream → Turn → Prop) {t : Stream}
    (hgoes : s.Goes allowed s') (hkeeps : ∀ x deed, allowed x deed → deed.Keeps w ref)
    (hturns : ∀ x deed t, allowed x deed → x.Sound → x.Shows w ref t →
      turns t (deed.turn (deed.run x).1))
    (hs : s.Sound) (h : s.Shows w ref t) :
  s'.Sound ∧ ∃ t', s'.Shows w ref t' ∧ t.Leads turns t'
  := by
  induction hgoes with
  | refl => exact ⟨hs, t, h, .refl⟩
  | tail _ hmove ih =>
      obtain ⟨hs₁, t₁, hshows, hleads⟩ := ih
      obtain ⟨hs', ⟨deed, hdeed, rfl⟩ | hstill⟩ := hmove.deed_or_still hs₁
      · obtain ⟨hafter, hbegan⟩ := hshows.run hs₁ (hkeeps _ _ hdeed)
        exact ⟨hs', _, hafter, hleads.tail ⟨_, hturns _ deed t₁ hdeed hs₁ hshows, hbegan, rfl⟩⟩
      · exact ⟨hs', t₁, hshows.still hstill, hleads⟩

end SymbolIndex
