import SymbolIndex.Proofs.Answers.Stores
import SymbolIndex.Proofs.Archive.Files
import SymbolIndex.Proofs.Events.Silence
import SymbolIndex.Proofs.Run.Opening

/-!
# Replaying what is told

A client that puts a watcher in its place and has a store begin to listen is told of all units of
the store, and then of each one that is removed. Doing as it is told, it has at each moment the
names of the units that the store has. When listening begins once more all units are told of again.
-/

namespace SymbolIndex

variable {s s' : Scene} {w : Watcher} {ref : StoreRef} {t : Stream} {names : List String}

/-! ### Doing as one is told -/

/-- The names that a client has after an event. -/
def EventInfo.replay (names : List String) (e : EventInfo) : List String :=
  match e.kind with
  | some .added => names ++ [e.unitName]
  | some .removed => names.filter fun u => u != e.unitName
  | _ => names

namespace EventBatch

/-- The names that a client has after a batch. It begins anew with an initial one. -/
def replay (names : List String) (b : EventBatch) : List String :=
  b.events.foldl EventInfo.replay (if b.isInitial then [] else names)

/-- The names that a client has after all batches that it has received. -/
def replayAll (batches : List EventBatch) : List String := batches.foldl replay []

theorem replay_added (names before : List String) :
  (telling true .added names).replay before = names
  := by
  have hadds : ∀ before : List String,
      (names.map fun u => (⟨some .added, u⟩ : EventInfo)).foldl EventInfo.replay before
        = before ++ names := by
    induction names with
    | nil => simp
    | cons u names ih => simp [EventInfo.replay, ih]
  exact hadds []

theorem replay_removals (removed names : List String) :
  (removals removed).foldl replay names = names.filter fun u => u ∉ removed
  := by
  induction removed generalizing names with
  | nil => simp [removals]
  | cons u removed ih =>
      have hfirst : replay names (telling false .removed [u]) = names.filter fun v => v != u := rfl
      rw [removals, List.map_cons, List.foldl_cons, hfirst]
      refine (ih _).trans ?_
      rw [List.filter_filter]
      apply List.filter_congr
      intro v _
      by_cases hv : v = u <;> simp [hv]

/-- Whatever came before, the names are those of the initial batch without the removed ones. -/
theorem replayAll_told (before : List EventBatch) (names removed : List String) :
  replayAll (before ++ telling true .added names :: removals removed)
    = names.filter fun u => u ∉ removed
  := by
  rw [replayAll, List.foldl_append, List.foldl_cons, replay_added, replay_removals]

end EventBatch

open EventBatch (telling removals)

/-! ### Units of an open store -/

namespace Scene

/-- The names of the units of a store that is held, as a client reads them. -/
def unitNames (s : Scene) (ref : StoreRef) : Except Halt (List String) :=
  match s.1.store? ref with
  | some e => (e.store.unitNames false s.2).1
  | none => .ok []

/-- What the watcher has received up to now, and the units that the store has. -/
structure Tells (s : Scene) (w : Watcher) (ref : StoreRef) (batches : List EventBatch)
    (names : List String) : Prop where
  received : w.received s.1 = batches
  units : s.unitNames ref = .ok names

/-- What a store that is watched shows is what can be read. -/
theorem Shows.tells (h : s.Shows w ref t) (hs : s.Sound) :
  s.Tells w ref t.received t.names
  := by
  obtain ⟨e, x, g, hw, rfl⟩ := h
  obtain ⟨rfl, -, honest, -⟩ := hs.store_held hw.held
  refine ⟨rfl, ?_⟩
  simp only [unitNames, hw.held, Store.unitNames_eq honest hw.opened]
  rfl

theorem Shows.watches (h : s.Shows w ref t) :
  s.Watches w ref
  := by
  obtain ⟨e, x, g, hw, -⟩ := h
  exact ⟨e, x, g, hw⟩

theorem Watches.shows (h : s.Watches w ref) :
  ∃ t, s.Shows w ref t
  := by
  obtain ⟨e, x, g, hw⟩ := h
  exact ⟨_, e, x, g, hw, rfl⟩

end Scene

/-! ### Operations in a run -/

/-- An operation that leaves the watcher in place is one on the store, or does not concern the
handler. -/
theorem Deed.Keeps.turn_cases {deed : Deed} (h : deed.Keeps w ref) (result : Except Halt Unit) :
  deed.turn result = .rest
    ∨ ∃ d, deed = .onStore ref d ∧ deed.turn result = d.turn result
  := by
  cases deed with
  | onStore store d =>
      rcases h with ⟨rfl, -⟩ | hreads
      · exact .inr ⟨d, rfl, rfl⟩
      · exact .inl (d.turn_of_reads hreads result)
  | _ => exact .inl rfl

/-- A name without a zero can be discarded. -/
theorem Scene.Shows.discardUnit_succeeds (h : s.Shows w ref t) (unit : String) :
  s.Succeeds ref (.discardUnit unit) ↔ unit.contains '\x00' = false
  := by
  obtain ⟨e, x, g, hw, -⟩ := h
  rw [Scene.Succeeds, Deed.run_onStore hw.held]
  simp only [StoreDeed.act, Scene.useDesk, EventStore.discardUnit, Access.terminated,
    Text.terminated?]
  cases unit.contains '\x00' with
  | true => simp [bind, Access.bind, Access.fail, Access.halt]
  | false => simp [bind, Access.bind, Access.pure, Access.change]

/-- A name with a zero is refused, and nothing happens. -/
theorem StoreDeed.discardUnit_refused {e : EventStore Archive} (he : s.1.store? ref = some e)
    {unit : String} (hzero : unit.contains '\x00' = true) :
  (Deed.onStore ref (.discardUnit unit)).run s
    = (.error (.error (.badArgument (.interiorZero (Text.quoted unit)))),
        s.1.note ⟨e.store.directory, false⟩, s.2)
  := by
  rw [Deed.run_onStore he]
  simp only [act, Scene.useDesk, EventStore.discardUnit, Access.terminated, Text.terminated?, hzero]
  rfl

/-- The watcher stays in place, and listening is not ended. -/
def Deed.Continues (w : Watcher) (ref : StoreRef) (deed : Deed) : Prop :=
  deed.Keeps w ref ∧ deed ≠ .onStore ref .stop

/-- A unit of the store is discarded by its name, which has no zero in it. -/
def Deed.Discards (ref : StoreRef) (s : Scene) (deed : Deed) : Prop :=
  ∃ unit names, deed = .onStore ref (.discardUnit unit) ∧ unit.contains '\x00' = false
    ∧ s.unitNames ref = .ok names ∧ unit ∈ names

theorem Deed.Continues.keen {deed : Deed} (h : deed.Continues w ref) (result : Except Halt Unit)
    (t : Stream) :
  t.Keen (deed.turn result)
  := by
  intro hturn
  obtain hrest | ⟨d, rfl, hd⟩ := h.1.turn_cases result
  · rw [hrest] at hturn
    cases hturn
  · obtain rfl : d = .stop := StoreDeed.of_turn (hd.symm.trans hturn)
    exact h.2 rfl

theorem Deed.Continues.calm {deed : Deed} (h : deed.Continues w ref) (hs : s.Sound)
    (hshows : s.Shows w ref t) (hdiscards : ¬ deed.Discards ref s) :
  t.Calm (deed.turn (deed.run s).1)
  := by
  refine ⟨h.keen _ t, ?_⟩
  intro unit hturn hunit
  obtain hrest | ⟨d, rfl, hd⟩ := h.1.turn_cases (deed.run s).1
  · rw [hrest] at hturn
    cases hturn
  · obtain ⟨rfl, hok⟩ := StoreDeed.of_turn (hd.symm.trans hturn)
    have hzero := (hshows.discardUnit_succeeds unit).mp hok
    exact hdiscards ⟨unit, t.names, rfl, hzero, (hshows.tells hs).units, hunit⟩

/-! ### What is told -/

namespace Scene

/-- The store listens, and everything has been told. -/
structure Listens (s : Scene) (w : Watcher) (ref : StoreRef) (names : List String) : Prop where
  /-- It does not begin to listen once more. -/
  repeated : ∀ wait, ¬ s.Succeeds ref (.start wait)
  /-- That a unit is removed is told in one batch. -/
  discards : ∀ unit ∈ names, unit.contains '\x00' = false →
    s.Succeeds ref (.discardUnit unit)
      ∧ (s.after ref (.discardUnit unit)).Tells w ref
          (w.received s.1 ++ [telling false .removed [unit]]) (names.filter fun u => u != unit)
  /-- Nothing else is told. -/
  others : ∀ s', s.Goes (fun x deed => deed.Continues w ref ∧ ¬ deed.Discards ref x) s' →
    s'.Tells w ref (w.received s.1) names
  stop : (s.after ref .stop).Tells w ref (w.received s.1) names

/-- All units have been told of, and then the removal of some. To do as one is told is to have the
names of the units. -/
def Told (s : Scene) (w : Watcher) (ref : StoreRef) (before : List EventBatch)
    (names : List String) : Prop :=
  ∃ removed,
    s.Tells w ref (before ++ telling true .added names :: removals removed)
        (names.filter fun u => u ∉ removed)
      ∧ s.unitNames ref = .ok (EventBatch.replayAll (w.received s.1))
      ∧ s.Listens w ref (names.filter fun u => u ∉ removed)

/-- All units have been told of at some point, or will be when the library works in the background,
or at last when listening ends. -/
def ToldLate (s : Scene) (w : Watcher) (ref : StoreRef) (before : List EventBatch)
    (names : List String) : Prop :=
  (∃ earlier,
    s.Tells w ref (before ++ removals earlier) (names.filter fun u => u ∉ earlier)
      ∧ ∀ deed ∈ [StoreDeed.background, .stop],
        (s.after ref deed).Tells w ref (before ++ removals earlier ++ [telling true .added names])
          (names.filter fun u => u ∉ earlier))
  ∨ ∃ earlier later,
    s.Tells w ref (before ++ removals earlier ++ telling true .added names :: removals later)
        (names.filter fun u => u ∉ earlier ++ later)
      ∧ s.Listens w ref (names.filter fun u => u ∉ earlier ++ later)

/-- What a watcher in its place is told of a store from now on. -/
structure Streams (s : Scene) (w : Watcher) (ref : StoreRef) (names : List String) : Prop where
  units : s.unitNames ref = .ok names
  /-- When listening has begun all units are told of, and from then on what is removed. -/
  starts : s.Succeeds ref (.start true) →
    (s.after ref (.start true)).Tells w ref (w.received s.1 ++ [telling true .added names]) names
      ∧ ∀ s', (s.after ref (.start true)).Goes (fun _ deed => deed.Continues w ref) s' →
        s'.Told w ref (w.received s.1) names
  /-- The initial batch need not be awaited. -/
  deferred : s.Succeeds ref (.start false) →
    (s.after ref (.start false)).Tells w ref (w.received s.1) names
      ∧ ∀ s', (s.after ref (.start false)).Goes (fun _ deed => deed.Continues w ref) s' →
        s'.ToldLate w ref (w.received s.1) names
  /-- A name with a zero cannot be discarded, even if the store has it. -/
  refuses : ∀ unit, unit.contains '\x00' = true →
    ¬ s.Succeeds ref (.discardUnit unit)
      ∧ (s.after ref (.discardUnit unit)).Tells w ref (w.received s.1) names

/-- An operation on the store that leaves the watcher in place. -/
theorem Shows.after (h : s.Shows w ref t) (hs : s.Sound) {d : StoreDeed} (hd : d.Keeps w) :
  (s.after ref d).Sound
    ∧ ∃ r, r = d.turn ((Deed.onStore ref d).run s).1 ∧ (s.after ref d).Shows w ref (t.after r)
      ∧ ∀ wait, r = .began wait → t.listening = false
  := by
  have hkeeps : (Deed.onStore ref d).Keeps w ref := .inl ⟨rfl, hd⟩
  obtain ⟨hshows, hbegan⟩ := h.run hs hkeeps
  exact ⟨((Deed.onStore ref d).run_leads s hs).1, _, rfl, hshows, hbegan⟩

theorem Shows.listens (h : s.Shows w ref t) (hs : s.Sound) (hlistening : t.listening = true)
    (hpending : t.pending = none) :
  s.Listens w ref t.names
  := by
  have hreceived := (h.tells hs).received
  constructor
  · intro wait hok
    obtain ⟨-, r, rfl, -, hbegan⟩ := h.after hs (d := .start wait) trivial
    have hsilent := hbegan wait (congrArg (StoreDeed.start wait).turn hok)
    rw [hlistening] at hsilent
    cases hsilent
  · intro unit hunit hzero
    have hok := (h.discardUnit_succeeds unit).mpr hzero
    obtain ⟨hs', r, rfl, hshows, -⟩ := h.after hs (d := .discardUnit unit) trivial
    rw [hok] at hshows
    have htells := hshows.tells hs'
    rw [hreceived]
    simpa [hok, Stream.after, StoreDeed.turn, hunit, hlistening, Stream.add] using htells
  · intro s' hgoes
    obtain ⟨hs', t', hshows, hleads⟩ := Goes.shows Stream.Calm hgoes (fun _ _ hdeed => hdeed.1.1)
      (fun _ _ _ hdeed hs hshows => hdeed.1.calm hs hshows hdeed.2) hs h
    rw [hleads.calm hlistening hpending] at hshows
    rw [hreceived]
    exact hshows.tells hs'
  · obtain ⟨hs', r, rfl, hshows, -⟩ := h.after hs (d := .stop) trivial
    have htells := hshows.tells hs'
    rw [hreceived]
    simpa [Stream.after, StoreDeed.turn, Stream.add, hpending] using htells

theorem Shows.goes_continues (h : s.Shows w ref t) (hs : s.Sound)
    (hgoes : s.Goes (fun _ deed => deed.Continues w ref) s') :
  s'.Sound ∧ ∃ t', s'.Shows w ref t' ∧ t.Leads Stream.Keen t'
  := Goes.shows Stream.Keen hgoes (fun _ _ hdeed => hdeed.1)
    (fun _ _ t hdeed _ _ => hdeed.keen _ t) hs h

/-- What is told when everything has been delivered that was to be. -/
theorem Shows.told (h : s.Shows w ref t) (hs : s.Sound) {before : List EventBatch}
    {removed : List String} (hlistening : t.listening = true) (hpending : t.pending = none)
    (hreceived : t.received = before ++ telling true .added names :: removals removed)
    (hnames : t.names = names.filter fun u => u ∉ removed) :
  s.Told w ref before names
  := by
  have htells := h.tells hs
  have hlistens := h.listens hs hlistening hpending
  rw [hreceived, hnames] at htells
  rw [hnames] at hlistens
  refine ⟨removed, htells, ?_, hlistens⟩
  rw [htells.received, htells.units, EventBatch.replayAll_told]

theorem Shows.starts (h : s.Shows w ref t) (hs : s.Sound) (hok : s.Succeeds ref (.start true)) :
  (s.after ref (.start true)).Tells w ref (t.received ++ [telling true .added t.names]) t.names
    ∧ ∀ s', (s.after ref (.start true)).Goes (fun _ deed => deed.Continues w ref) s' →
      s'.Told w ref t.received t.names
  := by
  obtain ⟨hs₁, r, rfl, hshows₁, -⟩ := h.after hs (d := .start true) trivial
  have hturn := congrArg (StoreDeed.start true).turn hok
  rw [hturn] at hshows₁
  refine ⟨hshows₁.tells hs₁, ?_⟩
  intro s' hgoes
  obtain ⟨hs', t', hshows', hleads⟩ := hshows₁.goes_continues hs₁ hgoes
  obtain ⟨removed, hreplays⟩ := hleads.replays rfl rfl
  apply hshows'.told hs' hreplays.listening hreplays.pending
  · simpa [StoreDeed.turn, Stream.after, Stream.add] using hreplays.received
  · exact hreplays.names

/-- What is still to be delivered is delivered in the background, or when listening ends. -/
theorem Shows.delivers (h : s.Shows w ref t) (hs : s.Sound) {first : EventBatch}
    (hpending : t.pending = some first) :
  ∀ deed ∈ [StoreDeed.background, .stop],
    (s.after ref deed).Tells w ref (t.received ++ [first]) t.names
  := by
  have hdelivered : ∀ deed : StoreDeed, deed.Keeps w →
      (∀ result, deed.turn result = .caughtUp ∨ deed.turn result = .stopped) →
        (s.after ref deed).Tells w ref (t.received ++ [first]) t.names := by
    intro deed hdeed hturns
    obtain ⟨hs', r, rfl, hshows, -⟩ := h.after hs hdeed
    have htells := hshows.tells hs'
    rcases hturns ((Deed.onStore ref deed).run s).1 with hturn | hturn <;>
      simpa [hturn, Stream.after, Stream.add, hpending] using htells
  intro deed hdeed
  rcases List.mem_pair.mp hdeed with rfl | rfl
  · exact hdelivered _ trivial fun _ => .inl rfl
  · exact hdelivered _ trivial fun _ => .inr rfl

theorem Shows.deferred (h : s.Shows w ref t) (hs : s.Sound) (hok : s.Succeeds ref (.start false)) :
  (s.after ref (.start false)).Tells w ref t.received t.names
    ∧ ∀ s', (s.after ref (.start false)).Goes (fun _ deed => deed.Continues w ref) s' →
      s'.ToldLate w ref t.received t.names
  := by
  obtain ⟨hs₁, r, rfl, hshows₁, -⟩ := h.after hs (d := .start false) trivial
  have hturn := congrArg (StoreDeed.start false).turn hok
  rw [hturn] at hshows₁
  refine ⟨hshows₁.tells hs₁, ?_⟩
  intro s' hgoes
  obtain ⟨hs', t', hshows', hleads⟩ := hshows₁.goes_continues hs₁ hgoes
  have htells := hshows'.tells hs'
  obtain ⟨earlier, hreplays⟩ | ⟨between, earlier, later, hearlier, hlater⟩ := hleads.defers rfl
  · left
    -- The initial batch is still pending.
    have hreceived : t'.received = t.received ++ removals earlier := hreplays.received
    have hnames : t'.names = t.names.filter fun u => u ∉ earlier := hreplays.names
    have hpending : t'.pending = some (telling true .added t.names) := hreplays.pending
    have hdelivers := hshows'.delivers hs' hpending
    rw [hreceived, hnames] at htells hdelivers
    exact ⟨earlier, htells, hdelivers⟩
  · right
    have hpending : between.pending = some (telling true .added t.names) := hearlier.pending
    have hbetween : between.received = t.received ++ removals earlier := hearlier.received
    have hreceived : t'.received
        = t.received ++ removals earlier ++ telling true .added t.names :: removals later := by
      rw [hlater.received]
      simp [Stream.after, Stream.add, hpending, hbetween]
    have hnames : t'.names = t.names.filter fun u => u ∉ earlier ++ later := by
      have hlast : t'.names = between.names.filter fun u => u ∉ later := hlater.names
      rw [hlast, hearlier.names, List.filter_filter]
      apply List.filter_congr
      intro u _
      simp [Bool.and_comm]
    have hlistens := hshows'.listens hs' hlater.listening hlater.pending
    rw [hreceived, hnames] at htells
    rw [hnames] at hlistens
    exact ⟨earlier, later, htells, hlistens⟩

theorem Shows.refuses (h : s.Shows w ref t) (hs : s.Sound) {unit : String}
    (hzero : unit.contains '\x00' = true) :
  ¬ s.Succeeds ref (.discardUnit unit)
    ∧ (s.after ref (.discardUnit unit)).Tells w ref t.received t.names
  := by
  have htells := h.tells hs
  obtain ⟨e, x, g, hw, -⟩ := h
  have hrefused := StoreDeed.discardUnit_refused hw.held hzero
  constructor
  · simp [Succeeds, hrefused]
  · rw [Scene.after, hrefused]
    exact ⟨htells.received, htells.units⟩

theorem Shows.streams (h : s.Shows w ref t) (hs : s.Sound) :
  s.Streams w ref t.names
  := by
  have htells := h.tells hs
  constructor
  · exact htells.units
  · rw [htells.received]
    exact h.starts hs
  · rw [htells.received]
    exact h.deferred hs
  · rw [htells.received]
    intro unit hzero
    exact h.refuses hs hzero

end Scene

/-! ### Putting a watcher in its place -/

/-- The end of a feed that a subscriber has just got. -/
theorem Watcher.stands_subscribed {d : Desk} (hd : d.Sound) {f : Nat}
    (hf : ∃ k, d.feeds.get? f = some k) :
  (receiver (d.subscribe f).1).Stands (d.subscribe f).2
  := by
  obtain ⟨k, hk⟩ := hf
  have hsound : k.feed.Sound :=
    hd.subscribers k (List.mem_map_of_mem (f := Prod.snd) (Table.get?_mem hk))
  refine ⟨{ k with feed := k.feed.subscribe.2 }, ?_, ?_⟩
  · simp [Desk.subscribe, Desk.modifyFeed, Table.get?_modify, hk]
  · simpa [Desk.subscribe, hk] using hsound.has_subscribe

namespace Scene

variable {e : EventStore Archive} (hs : s.Sound) (hattached : s.Attached)
  (he : s.1.store? ref = some e)

include hs hattached he

/-- A handler that writes into a journal. -/
theorem watches_setHandler {j : Nat} {notes : List NotificationView}
    (hj : s.1.desk.journals.get? j = some notes) :
  (s.after ref (.setHandler j)).Watches (.journal j) ref
  := by
  obtain ⟨rfl, -, honest, x, hx⟩ := hs.store_held he
  obtain ⟨hy, -, -, hwith, hsink, -⟩ := hattached.install hs.archive honest hx (.journal j)
    (hattached.desk.letGo e.feed) (Desk.handlers_letGo _ _) (fun f hf => Desk.feed_letGo hf e.feed)
  have hstands : (Watcher.journal j).Stands (((s.1.desk.letGo e.feed).handler (.journal j)).2) := by
    refine ⟨notes, ?_⟩
    cases e.feed <;> exact hj
  let y := e.install (.journal j) (s.1.desk.letGo e.feed, s.2)
  let u : Use := ⟨e.store.directory, true⟩
  have hheld : ({ s.1.note u with desk := y.1 }.update { e with feed := none }).store? e.store.ref
      = some { e with feed := none } := Holdings.store?_update he rfl
  have hrun : s.after e.store.ref (.setHandler j)
      = ({ s.1.note u with desk := y.1 }.update { e with feed := none }, y.2) :=
    congrArg Prod.snd (Deed.run_onStore he (.setHandler j))
  rw [hrun]
  refine ⟨_, { x with handler := some _ }, _, hheld, ?_, rfl, hsink, ?_, fun r hr => by cases hr⟩
  · rw [hwith, if_pos rfl]
  · have hstands' := hstands.process x.releaseHandler
    rw [← hy] at hstands'
    exact hstands'

/-- A further subscriber, or the first one. -/
theorem watches_subscribe :
  ∃ r, (s.after ref .subscribe).1.receivers = s.1.receivers ++ [r]
    ∧ (s.after ref .subscribe).Watches (.receiver r) ref
  := by
  obtain ⟨rfl, hmem, honest, x, hx⟩ := hs.store_held he
  let y := e.ownFeed (s.1.desk, s.2)
  let u : Use := ⟨e.store.directory, e.feed.isNone⟩
  obtain ⟨hdesk, -, ⟨x', h, hx', hh, hsink, hfeed⟩, -⟩ :=
    StoreDeed.ownFeed_attached hattached hs.archive honest hx hmem
  have hrun : s.after e.store.ref .subscribe
      = ({ (s.1.note u).update { e with feed := some y.1 } with
            desk := (y.2.1.subscribe y.1).2
            receivers := s.1.receivers ++ [(y.2.1.subscribe y.1).1] }, y.2.2) :=
    congrArg Prod.snd (Deed.run_onStore he .subscribe)
  have hheld : ((s.1.note u).update { e with feed := some y.1 }).store? e.store.ref
      = some { e with feed := some y.1 } := Holdings.store?_update he rfl
  rw [hrun]
  refine ⟨(y.2.1.subscribe y.1).1, rfl, _, x', h, hheld, hx', hh, hsink,
    Watcher.stands_subscribed hdesk hfeed, ?_⟩
  rintro r hr
  obtain rfl := Watcher.receiver.inj hr
  rfl

end Scene

/-! ### Programs -/

/-- What is told of a store from a point of a program on. -/
structure Scene.Replays (s : Scene) (ref : StoreRef) : Prop where
  /-- A handler that is given to an open store writes into its journal from then on. -/
  handler : (s.1.store? ref).isSome → ∀ j, (s.1.desk.journals.get? j).isSome →
    (s.after ref (.setHandler j)).Watches (.journal j) ref
  /-- The batches are sent to a subscriber from then on. -/
  subscriber : (s.1.store? ref).isSome →
    ∃ r, (s.after ref .subscribe).1.receivers = s.1.receivers ++ [r]
      ∧ (s.after ref .subscribe).Watches (.receiver r) ref
  /-- As long as a watcher is in its place, what is told of the store is what happens to it. -/
  streams : ∀ w, s.Watches w ref → ∀ s', s.Goes (fun _ deed => deed.Keeps w ref) s' →
    s'.Watches w ref ∧ ∃ names, s'.Streams w ref names
  /-- When listening has ended nothing is told to anybody until it begins once more. -/
  silence : (s.1.store? ref).isSome → ∀ w : Watcher, w.Stands s.1.desk → ∀ s',
    (s.after ref .stop).Goes (fun x deed => deed.Stays w ref ∧ ¬ deed.Begins ref x) s' →
      w.received s'.1 = w.received (s.after ref .stop).1

/-- At every point of every program, what is told of a store replays to the units of the store. -/
theorem Program.events_replay {β : Type} {p : Program β} {disk : Disk} {s : Scene}
    (hs : p.Reaches (Scene.start disk) s) (ref : StoreRef) :
  s.Replays ref
  := by
  obtain ⟨hsound, hattached⟩ := hs.attached
  constructor
  · intro he j hj
    obtain ⟨e, he⟩ := Option.isSome_iff_exists.mp he
    obtain ⟨notes, hnotes⟩ := Option.isSome_iff_exists.mp hj
    exact Scene.watches_setHandler hsound hattached he hnotes
  · intro he
    obtain ⟨e, he⟩ := Option.isSome_iff_exists.mp he
    exact Scene.watches_subscribe hsound hattached he
  · intro w hw s' hgoes
    obtain ⟨t, hshows⟩ := hw.shows
    obtain ⟨hsound', t', hshows', -⟩ := Scene.Goes.shows (fun _ _ => True) hgoes
      (fun _ _ => id) (fun _ _ _ _ _ _ => trivial) hsound hshows
    exact ⟨hshows'.watches, t'.names, hshows'.streams hsound'⟩
  · intro he w hw s' hgoes
    obtain ⟨e, he⟩ := Option.isSome_iff_exists.mp he
    exact Scene.Goes.silence he hsound hw hgoes

/-! ### A store with one unit -/

/-- A store is opened where it can be read. -/
theorem Deed.run_openStore {l : Library Archive} {path : String} {octets : Text.Octets}
    {contents : StoreContents} (hpath : Text.terminated? path = some octets)
    (hread : s.2.disk.readStore path = .ok contents) :
  (Deed.openStore l path none).run s
    = (.ok (),
        { s.1.note ⟨Path.ofText path, false⟩ with
          stores := s.1.stores ++ [{ store := ⟨l.withArchive l.convention, s.2.stores.next, path⟩ }] },
        { s.2 with stores := (s.2.stores.insert { path, mappings := [], contents }).2 }.enter
          (Path.ofText path) fun t => { t with stores := t.stores.create })
  := by
  obtain ⟨hzero, -⟩ := Text.terminated?_eq_some.mp hpath
  have haccepts : s.Accepts l none := nofun
  exact run_openStore_of haccepts hzero hread

/-- A store is opened, and its handler writes into a journal before it begins to listen. -/
def Program.listening : Program Unit :=
  deeds [.openStore (.ofArchive .closure) "stores" none, .onDesk .newJournal,
    .onStore 0 (.setHandler 0), .onStore 0 (.start true)]

/-- A store with one unit, in whose name there is a zero. -/
def StoreContents.zeroDocument : String :=
  "\x7b\"units\":[\x7b\"name\":\"a\\u0000b\"\x7d]\x7d"

theorem Text.terminated?_stores :
  Text.terminated? "stores" = some (Text.octets "stores")
  := by
  simp [Text.terminated?]

theorem Disk.readStore_zeroDocument :
  (holding "stores" (some StoreContents.zeroDocument)).readStore "stores"
    = .ok { units := [{ name := "a\x00b" }] }
  := readStore_holding (by decide +kernel)

/-- The scene in which the store listens. -/
def Scene.listening : Scene :=
  (Program.listening.run (start (.holding "stores" (some StoreContents.zeroDocument)))).2

theorem Scene.listening_tells :
  listening.Watches (.journal 0) 0
    ∧ listening.Tells (.journal 0) 0 [telling true .added ["a\x00b"]] ["a\x00b"]
  := by
  have hopen := Deed.run_openStore
    (s := start (.holding "stores" (some StoreContents.zeroDocument))) (l := .ofArchive .closure)
    Text.terminated?_stores Disk.readStore_zeroDocument
  simp only [listening, Program.listening, Program.deeds, List.foldr_cons, List.foldr_nil,
    Program.run, hopen]
  -- From the open store on everything computes.
  constructor
  · exact ⟨_, _, _, rfl, rfl, rfl, rfl, ⟨_, rfl⟩, fun r hr => by cases hr⟩
  · exact ⟨rfl, rfl⟩

/-- The store is watched, and what is told of it replays to its units. -/
theorem Program.events_replay_listening :
  Scene.listening.Watches (.journal 0) 0 ∧ Scene.listening.Replays 0
  := ⟨Scene.listening_tells.1, events_replay (reaches_end _ _) 0⟩

/-- The store listens and has the unit, but its removal is refused and not told. -/
theorem Program.discard_untold :
  Scene.listening.Tells (.journal 0) 0 [telling true .added ["a\x00b"]] ["a\x00b"]
    ∧ ¬ Scene.listening.Succeeds 0 (.discardUnit "a\x00b")
    ∧ (Scene.listening.after 0 (.discardUnit "a\x00b")).Tells (.journal 0) 0
        [telling true .added ["a\x00b"]] ["a\x00b"]
  := by
  obtain ⟨hwatches, htells⟩ := Scene.listening_tells
  obtain ⟨t, hshows⟩ := hwatches.shows
  obtain ⟨hsound, -⟩ := (reaches_end listening _).attached
  have hzero : "a\x00b".contains '\x00' = true := by simp
  have hrefused := hshows.refuses hsound hzero
  have hnames : t.names = ["a\x00b"] :=
    Except.ok.inj ((hshows.tells hsound).units.symm.trans htells.units)
  rw [hnames, ← (hshows.tells hsound).received, htells.received] at hrefused
  exact ⟨htells, hrefused⟩

end SymbolIndex
