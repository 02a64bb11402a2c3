import SymbolIndex.Proofs.Events.Feed
import SymbolIndex.Proofs.Run.Scene

/-!
# What gathers at the event desk

A notification that a handler gets ends up in the handler's journal, or in the queue of each
receiver of its feed. Everything else at the desk leaves the journals and queues alone, except
that batches are taken out of them.
-/

namespace SymbolIndex

/-! ### Watchers -/

namespace Watcher

/-- Where a handler sends what gathers in the watcher. -/
def sink : Watcher → Sink
  | journal j => .journal j
  | receiver r => .feed r.feed

/-- The batches that have not been taken out, first one first. -/
def waiting (d : Desk) : Watcher → List EventBatch
  | journal j => ((d.journals.get? j).getD []).map NotificationView.batch
  | receiver r => ((d.feeds.get? r.feed).getD {}).feed.queue r.subscriber

/-- The journal is there, or the receiver has not been dropped. -/
def Stands (d : Desk) : Watcher → Prop
  | journal j => ∃ notes, d.journals.get? j = some notes
  | receiver r => ∃ k, d.feeds.get? r.feed = some k ∧ k.feed.Has r.subscriber

/-- All batches that have gathered up to now, first one first. -/
def received (w : Watcher) (h : Holdings) : List EventBatch :=
  (h.taken.filter fun t => t.1 = w).map Prod.snd ++ w.waiting h.desk

/-- What a call of a handler adds. -/
def heard (w : Watcher) (d : Desk) : HandlerCall → List EventBatch
  | .deliver h n => if d.handlers.get? h = some w.sink then [n.batch] else []
  | .release _ => []

variable {w : Watcher} {d : Desk}

theorem waiting_note (hw : w.Stands d) (n : NotificationView) (sink : Sink) :
  w.waiting (d.note n sink) = w.waiting d ++ if sink = w.sink then [n.batch] else []
  := by
  cases w with
  | journal j =>
      obtain ⟨notes, hnotes⟩ := hw
      cases sink with
      | journal j' =>
          rcases eq_or_ne j j' with rfl | hj
          · simp [waiting, Desk.note, Table.get?_modify, Watcher.sink, hnotes]
          · simp [waiting, Desk.note, Table.get?_modify, Watcher.sink, hj, hj.symm]
      | feed f => simp [waiting, Desk.note, Watcher.sink]
  | receiver r =>
      obtain ⟨k, hk, hhas⟩ := hw
      cases sink with
      | journal j => simp [waiting, Desk.note, Watcher.sink]
      | feed f =>
          rcases eq_or_ne f r.feed with rfl | hf
          · simp [waiting, Desk.note, Table.get?_modify, Watcher.sink, hk, hhas.queue_emit]
          · simp [waiting, Desk.note, Table.get?_modify, Watcher.sink, hf, hf.symm]

theorem Stands.note (hw : w.Stands d) (n : NotificationView) (sink : Sink) :
  w.Stands (d.note n sink)
  := by
  cases w with
  | journal j =>
      obtain ⟨notes, hnotes⟩ := hw
      cases sink with
      | journal j' =>
          rcases eq_or_ne j j' with rfl | hj
          · simp [Stands, Desk.note, Table.get?_modify, hnotes]
          · simp [Stands, Desk.note, Table.get?_modify, hj, hnotes]
      | feed f => exact ⟨notes, hnotes⟩
  | receiver r =>
      obtain ⟨k, hk, hhas⟩ := hw
      cases sink with
      | journal j => exact ⟨k, hk, hhas⟩
      | feed f =>
          rcases eq_or_ne f r.feed with rfl | hf
          · simp [Stands, Desk.note, Table.get?_modify, hk, hhas.emit]
          · simp [Stands, Desk.note, Table.get?_modify, hf.symm, hk, hhas]

/-- What a call adds is at the end. -/
theorem waiting_call (hw : w.Stands d) (c : HandlerCall) :
  w.waiting (d.call c) = w.waiting d ++ w.heard d c
  := by
  cases c with
  | deliver h n =>
      simp only [Desk.call, heard]
      cases hh : d.handlers.get? h with
      | some sink => simp [waiting_note hw]
      | none => simp
  | release h => cases w <;> simp [Desk.call, heard, waiting]

theorem Stands.call (hw : w.Stands d) (c : HandlerCall) :
  w.Stands (d.call c)
  := by
  cases c with
  | deliver h n =>
      simp only [Desk.call]
      split
      · apply hw.note
      · exact hw
  | release h => cases w <;> exact hw

theorem Stands.process (hw : w.Stands d) (calls : List HandlerCall) :
  w.Stands (d.process calls)
  := by
  induction calls generalizing d with
  | nil => exact hw
  | cons c calls ih => exact ih (hw.call c)

/-! ### What a client does at the desk -/

section

variable {g : Subscriber → Subscriber} (hid : ∀ s, (g s).id = s.id)

include hid

/-- Changing the subscription of another receiver. -/
theorem waiting_modifyFeed_of_ne (hw : w.Stands d) {r : Receiver} (h : w ≠ receiver r) :
  w.waiting (d.modifyFeed r.feed fun f => f.modify r.subscriber g) = w.waiting d
  := by
  cases w with
  | journal j => rfl
  | receiver r' =>
      obtain ⟨k, hk, -⟩ := hw
      rcases r' with ⟨f', id'⟩
      rcases r with ⟨f, id⟩
      rcases eq_or_ne f' f with rfl | hf
      · have hother : id' ≠ id := by
          rintro rfl
          exact h rfl
        simp [waiting, Desk.modifyFeed, Table.get?_modify, hk, Feed.queue_modify_of_ne hother hid]
      · simp [waiting, Desk.modifyFeed, Table.get?_modify, hf]

theorem waiting_modifyFeed {r : Receiver} (hw : (receiver r).Stands d)
    {c : List EventBatch → List EventBatch} (hqueue : ∀ s, (g s).queue = c s.queue)
    (hnil : c [] = []) :
  (receiver r).waiting (d.modifyFeed r.feed fun f => f.modify r.subscriber g)
    = c ((receiver r).waiting d)
  := by
  obtain ⟨k, hk, -⟩ := hw
  simp [waiting, Desk.modifyFeed, Table.get?_modify, hk, Feed.queue_modify hid hqueue hnil]

theorem Stands.modifyFeed (hw : w.Stands d) {r : Receiver}
    (halive : ∀ s, w = receiver r → s.alive = true → (g s).alive = true) :
  w.Stands (d.modifyFeed r.feed fun f => f.modify r.subscriber g)
  := by
  cases w with
  | journal j => exact hw
  | receiver r' =>
      obtain ⟨k, hk, hhas⟩ := hw
      rcases r' with ⟨f', id'⟩
      rcases r with ⟨f, id⟩
      rcases eq_or_ne f' f with rfl | hf
      · have hmodified : (k.feed.modify id g).Has id' := by
          apply hhas.modify hid
          rintro s rfl
          exact halive s rfl
        simp [Stands, Desk.modifyFeed, Table.get?_modify, hk, hmodified]
      · simp [Stands, Desk.modifyFeed, Table.get?_modify, hf, hk, hhas]

end

/-- Taking everything out of another journal. -/
theorem waiting_takeJournal_of_ne {j : Nat} (h : w ≠ journal j) :
  w.waiting (d.takeJournal j).2 = w.waiting d
  := by
  cases w with
  | journal j' =>
      have hj : j' ≠ j := by
        rintro rfl
        exact h rfl
      simp [waiting, Desk.takeJournal, Table.get?_modify, hj]
  | receiver r => rfl

end Watcher

theorem DeskDeed.handlers_act (deed : DeskDeed) (d : Desk) :
  (deed.act d).handlers = d.handlers
  := by
  cases deed <;> rfl

/-- The operation does not drop the receiver. -/
def DeskDeed.Spares (w : Watcher) : DeskDeed → Prop
  | drop r => w ≠ .receiver r
  | _ => True

namespace Watcher

variable {w : Watcher} {d : Desk}

theorem Stands.act (hw : w.Stands d) {deed : DeskDeed} (h : deed.Spares w) :
  w.Stands (deed.act d)
  := by
  cases deed with
  | newJournal =>
      cases w with
      | journal j =>
          obtain ⟨notes, hnotes⟩ := hw
          exact ⟨notes, Table.get?_insert_of_some hnotes _⟩
      | receiver r => exact hw
  | takeJournal j =>
      cases w with
      | journal j' =>
          obtain ⟨notes, hnotes⟩ := hw
          rcases eq_or_ne j' j with rfl | hj
          · simp [Stands, DeskDeed.act, Desk.takeJournal, Table.get?_modify, hnotes]
          · simp [Stands, DeskDeed.act, Desk.takeJournal, Table.get?_modify, hj, hnotes]
      | receiver r => exact hw
  | receive r =>
      refine hw.modifyFeed ?_ ?_
      · exact fun _ => rfl
      · exact fun _ _ => id
  | drain r =>
      refine hw.modifyFeed ?_ ?_
      · exact fun _ => rfl
      · exact fun _ _ => id
  | drop r =>
      refine hw.modifyFeed ?_ ?_
      · exact fun _ => rfl
      · exact fun _ hr => absurd hr h

/-- A further subscriber of a feed. -/
theorem Stands.subscribe (hw : w.Stands d) (f : Nat) :
  w.Stands (d.subscribe f).2
  := by
  cases w with
  | journal j => exact hw
  | receiver r =>
      obtain ⟨k, hk, hhas⟩ := hw
      rcases eq_or_ne r.feed f with rfl | hf
      · simp [Stands, Desk.subscribe, Desk.modifyFeed, Table.get?_modify, hk, hhas.subscribe]
      · simp [Stands, Desk.subscribe, Desk.modifyFeed, Table.get?_modify, hf, hk, hhas]

theorem waiting_subscribe (hw : w.Stands d) (f : Nat) :
  w.waiting (d.subscribe f).2 = w.waiting d
  := by
  cases w with
  | journal j => rfl
  | receiver r =>
      obtain ⟨k, hk, hhas⟩ := hw
      rcases eq_or_ne r.feed f with rfl | hf
      · simp [waiting, Desk.subscribe, Desk.modifyFeed, Table.get?_modify, hk,
          hhas.queue_subscribe]
      · simp [waiting, Desk.subscribe, Desk.modifyFeed, Table.get?_modify, hf]

/-- A new feed. -/
theorem Stands.feed (hw : w.Stands d) :
  w.Stands d.feed.2 ∧ w.waiting d.feed.2 = w.waiting d
  := by
  cases w with
  | journal j => exact ⟨hw, rfl⟩
  | receiver r =>
      obtain ⟨k, hk, hhas⟩ := hw
      have hfound : d.feed.2.feeds.get? r.feed = some k := Table.get?_insert_of_some hk _
      refine ⟨⟨k, hfound, hhas⟩, ?_⟩
      simp [waiting, hfound, hk]

/-- A store that no longer keeps its feed. -/
theorem Stands.letGo (hw : w.Stands d) (feed : Option Nat) :
  w.Stands (d.letGo feed) ∧ w.waiting (d.letGo feed) = w.waiting d
  := by
  cases feed with
  | none => exact ⟨hw, rfl⟩
  | some f =>
      cases w with
      | journal j => exact ⟨hw, rfl⟩
      | receiver r =>
          obtain ⟨k, hk, hhas⟩ := hw
          rcases eq_or_ne r.feed f with rfl | hf
          · simp [Stands, waiting, Desk.letGo, Table.get?_modify, hk, hhas]
          · simp [Stands, waiting, Desk.letGo, Table.get?_modify, hf, hk, hhas]

/-- A new handler, and calls that only let go of handlers. -/
theorem Stands.releases (hw : w.Stands d) (sink : Sink) {calls : List HandlerCall}
    (h : ∀ c ∈ calls, ∃ g, c = .release g) :
  w.Stands ((d.handler sink).2.process calls)
    ∧ w.waiting ((d.handler sink).2.process calls) = w.waiting d
  := by
  have hprocess : ∀ d : Desk, w.Stands d → w.waiting (d.process calls) = w.waiting d := by
    induction calls with
    | nil => exact fun _ _ => rfl
    | cons c calls ih =>
        intro d hw
        obtain ⟨g, rfl⟩ := h c List.mem_cons_self
        have hfirst : w.waiting (d.call (.release g)) = w.waiting d :=
          (waiting_call hw _).trans (List.append_nil _)
        exact (ih (fun c hc => h c (List.mem_cons_of_mem _ hc)) _ (hw.call _)).trans hfirst
  have hhandler : w.Stands (d.handler sink).2 := by
    cases w <;> exact hw
  refine ⟨hhandler.process calls, (hprocess _ hhandler).trans ?_⟩
  cases w <;> rfl

/-- What is taken out of a watcher is what no longer waits. -/
theorem received_act (hw : w.Stands d) {deed : DeskDeed} (h : deed.Spares w) :
  ((deed.taken d).filter fun t => t.1 = w).map Prod.snd ++ w.waiting (deed.act d) = w.waiting d
  := by
  cases deed with
  | newJournal =>
      cases w with
      | journal j =>
          obtain ⟨notes, hnotes⟩ := hw
          have hfound : d.journal.2.journals.get? j = some notes :=
            Table.get?_insert_of_some hnotes _
          simp [DeskDeed.taken, DeskDeed.act, waiting, hnotes, hfound]
      | receiver r => rfl
  | takeJournal j =>
      rcases eq_or_ne w (journal j) with rfl | hj
      · obtain ⟨notes, hnotes⟩ := hw
        simp [DeskDeed.taken, DeskDeed.act, Desk.takeJournal, waiting, Table.get?_modify, hnotes,
          List.filter_map, Function.comp_def]
      · simp [DeskDeed.taken, DeskDeed.act, waiting_takeJournal_of_ne hj, List.filter_map,
          Function.comp_def, hj.symm]
  | receive r =>
      rcases eq_or_ne w (receiver r) with rfl | hr
      · have hwaiting : (receiver r).waiting (d.receive r).2 = ((receiver r).waiting d).tail :=
          waiting_modifyFeed (by intro s; rfl) hw (by intro s; rfl) rfl
        have hfirst : (d.receive r).1 = ((receiver r).waiting d).head? := rfl
        rw [DeskDeed.taken, DeskDeed.act, hwaiting, hfirst]
        cases (receiver r).waiting d <;> simp
      · have hwaiting : w.waiting (d.receive r).2 = w.waiting d :=
          waiting_modifyFeed_of_ne (by intro s; rfl) hw hr
        simp [DeskDeed.taken, DeskDeed.act, hwaiting, List.filter_map, Function.comp_def, hr.symm]
  | drain r =>
      rcases eq_or_ne w (receiver r) with rfl | hr
      · have hwaiting : (receiver r).waiting (d.drain r).2 = [] :=
          waiting_modifyFeed (c := fun _ => []) (by intro s; rfl) hw (by intro s; rfl) rfl
        have hall : (d.drain r).1 = (receiver r).waiting d := rfl
        simp [DeskDeed.taken, DeskDeed.act, hwaiting, hall, List.filter_map, Function.comp_def]
      · have hwaiting : w.waiting (d.drain r).2 = w.waiting d :=
          waiting_modifyFeed_of_ne (by intro s; rfl) hw hr
        simp [DeskDeed.taken, DeskDeed.act, hwaiting, List.filter_map, Function.comp_def, hr.symm]
  | drop r =>
      have hwaiting : w.waiting (d.drop r) = w.waiting d :=
        waiting_modifyFeed_of_ne (by intro s; rfl) hw h
      exact hwaiting

end Watcher

/-! ### What has been numbered by the desk -/

/-- Handlers, feeds and subscribers have been numbered by the desk. -/
structure Desk.Sound (d : Desk) : Prop where
  handlers : d.handlers.Sound
  feeds : d.feeds.Sound
  subscribers : ∀ k ∈ d.feeds.values, k.feed.Sound

namespace Desk.Sound

variable {d : Desk}

theorem modifyFeeds (hd : d.Sound) (f : Nat) {g : DeskFeed → DeskFeed}
    (hg : ∀ k : DeskFeed, k.feed.Sound → (g k).feed.Sound) :
  Desk.Sound { d with feeds := d.feeds.modify f g }
  := by
  refine ⟨hd.handlers, hd.feeds.modify f g, ?_⟩
  intro k' hk'
  obtain ⟨e', he', rfl⟩ := List.mem_map.mp hk'
  obtain ⟨e, he, rfl⟩ := List.mem_map.mp he'
  have hsound := hd.subscribers e.2 (List.mem_map_of_mem (f := Prod.snd) he)
  split
  · exact hg _ hsound
  · exact hsound

theorem note (hd : d.Sound) (n : NotificationView) (sink : Sink) :
  (d.note n sink).Sound
  := by
  cases sink with
  | journal j => exact ⟨hd.handlers, hd.feeds, hd.subscribers⟩
  | feed f => exact hd.modifyFeeds f fun k hk => hk.emit _

theorem call (hd : d.Sound) (c : HandlerCall) :
  (d.call c).Sound
  := by
  cases c with
  | deliver h n =>
      simp only [Desk.call]
      split
      · apply hd.note
      · exact hd
  | release h => exact ⟨hd.handlers.erase h, hd.feeds, hd.subscribers⟩

theorem process (hd : d.Sound) (calls : List HandlerCall) :
  (d.process calls).Sound
  := by
  induction calls generalizing d with
  | nil => exact hd
  | cons c calls ih => exact ih (hd.call c)

theorem handler (hd : d.Sound) (sink : Sink) :
  (d.handler sink).2.Sound
  := ⟨hd.handlers.insert sink, hd.feeds, hd.subscribers⟩

theorem feed (hd : d.Sound) :
  d.feed.2.Sound
  := by
  refine ⟨hd.handlers, hd.feeds.insert {}, ?_⟩
  intro k hk
  rw [Desk.feed, Table.values, Table.insert, List.map_append] at hk
  rcases List.mem_append.mp hk with hk | hk
  · exact hd.subscribers k hk
  · obtain rfl := List.mem_singleton.mp hk
    intro s hs
    cases hs

theorem letGo (hd : d.Sound) (feed : Option Nat) :
  (d.letGo feed).Sound
  := by
  cases feed with
  | none => exact hd
  | some f => exact hd.modifyFeeds f fun _ hk => hk

theorem subscribe (hd : d.Sound) (f : Nat) :
  (d.subscribe f).2.Sound
  := hd.modifyFeeds f fun _ hk => hk.subscribe

theorem act (hd : d.Sound) (deed : DeskDeed) :
  (deed.act d).Sound
  := by
  cases deed with
  | newJournal => exact ⟨hd.handlers, hd.feeds, hd.subscribers⟩
  | takeJournal j => exact ⟨hd.handlers, hd.feeds, hd.subscribers⟩
  | receive r | drain r | drop r =>
      exact hd.modifyFeeds r.feed fun k hk => hk.modify r.subscriber fun _ => rfl

end Desk.Sound

end SymbolIndex
