import SymbolIndex.Proofs.Events.Attachment

/-!
# The calls that a library makes

During an operation on a store the library may call handlers. The calls come to the event desk
after it has got ready for the operation, and the desk concludes the operation when they are made.
Whatever is called for, the desk lets nothing come back of which it has let go.
-/

namespace SymbolIndex

variable {s s' : Scene} {ref : StoreRef} {x : ArchiveStore}

/-! ### Calls of an operation -/

namespace StoreDeed

variable (e : EventStore Archive)

/-- The calls that the library makes. A handler that is installed is the next one of the desk. -/
def calls (d : Desk) (a : Archive) : StoreDeed → List HandlerCall
  | discardUnit unit =>
    match Text.terminated? unit with
    | some octets => (e.store.library.backend.discardUnit e.store.ref octets a).1
    | none => []
  | setHandler _ => (e.store.library.backend.setHandler e.store.ref d.handlers.next a).1
  | subscribe =>
    match e.feed with
    | none => (e.store.library.backend.setHandler e.store.ref d.handlers.next a).1
    | some _ => []
  | start wait => (e.store.library.backend.startListening e.store.ref wait a).1.calls
  | stop => (e.store.library.backend.stopListening e.store.ref a).1
  | background => (e.store.library.backend.background e.store.ref a).1
  | close => (e.store.library.backend.disposeStore e.store.ref a).1
  | _ => []

/-- The desk to which the calls come. -/
def readied (d : Desk) : StoreDeed → Desk
  | setHandler journal => ((d.letGo e.feed).handler (.journal journal)).2
  | subscribe =>
    match e.feed with
    | none => (d.feed.2.handler (.feed d.feed.1)).2
    | some _ => d
  | _ => d

/-- What the desk that has been ready, and has been called, does in the end. -/
def concluded (before called : Desk) : StoreDeed → Desk
  | subscribe => (called.subscribe (e.feed.getD before.feed.1)).2
  | close => called.letGo e.feed
  | _ => called

end StoreDeed

theorem Scene.desk_use {α : Type} (m : Access Archive α) (keep : α → Holdings → Holdings)
    (hkeep : ∀ a h, (keep a h).desk = h.desk) (s : Scene) :
  (use m keep s).2.1.desk = s.1.desk
  := by
  rw [use]
  rcases m s.2 with ⟨e | a, archive⟩
  · rfl
  · exact hkeep a s.1

theorem Scene.taken_use {α : Type} (m : Access Archive α) (keep : α → Holdings → Holdings)
    (hkeep : ∀ a h, (keep a h).taken = h.taken) (s : Scene) :
  (use m keep s).2.1.taken = s.1.taken
  := by
  rw [use]
  rcases m s.2 with ⟨e | a, archive⟩
  · rfl
  · exact hkeep a s.1

theorem Scene.taken_useDesk {α : Type} (m : Access (Desk × Archive) α)
    (keep : α → Holdings → Holdings) (hkeep : ∀ a h, (keep a h).taken = h.taken) (s : Scene) :
  (useDesk m keep s).2.1.taken = s.1.taken
  := by
  rw [useDesk]
  rcases m (s.1.desk, s.2) with ⟨e | a, desk, archive⟩
  · rfl
  · exact hkeep a { s.1 with desk }

/-- No operation on a store takes anything out. -/
theorem StoreDeed.taken_act (e : EventStore Archive) (deed : StoreDeed) (s : Scene) :
  (deed.act e s).2.1.taken = s.1.taken
  := by
  cases deed with
  | unitNames _ | unitNamesFiltered _ | unitName _ | unitTime _ | discardRecord _ | purge
  | openRecord _ | openUnit _ =>
      apply Scene.taken_use
      exact fun _ _ => rfl
  | discardUnit _ | setHandler _ | subscribe | start _ | stop | background | close =>
      apply Scene.taken_useDesk
      exact fun _ _ => rfl

/-- What happens at the desk during an operation is what the library calls for, and what the
client does before and after it. -/
theorem StoreDeed.desk_act (e : EventStore Archive) (deed : StoreDeed) (s : Scene) :
  (deed.act e s).2.1.desk
    = deed.concluded e s.1.desk
        ((deed.readied e s.1.desk).process (deed.calls e s.1.desk s.2))
  := by
  cases deed with
  | unitNames sorted => exact Scene.desk_use _ _ (fun _ _ => rfl) s
  | unitNamesFiltered includeSystem => exact Scene.desk_use _ _ (fun _ _ => rfl) s
  | unitName outputPath => exact Scene.desk_use _ _ (fun _ _ => rfl) s
  | unitTime unit => exact Scene.desk_use _ _ (fun _ _ => rfl) s
  | discardUnit unit =>
      simp only [act, Scene.useDesk, EventStore.discardUnit, Access.terminated, concluded, readied,
        calls]
      cases Text.terminated? unit <;> rfl
  | discardRecord record => exact Scene.desk_use _ _ (fun _ _ => rfl) s
  | purge => exact Scene.desk_use _ _ (fun _ _ => rfl) s
  | openRecord record =>
      apply Scene.desk_use (RecordReader.openIn e.store record)
      exact fun _ _ => rfl
  | openUnit unit =>
      apply Scene.desk_use (UnitReader.openIn e.store unit)
      exact fun _ _ => rfl
  | setHandler journal =>
      have hnext : (s.1.desk.letGo e.feed).handlers.next = s.1.desk.handlers.next := by
        rw [Desk.handlers_letGo]
      simp only [concluded, readied, calls, ← hnext]
      rfl
  | subscribe =>
      rw [act_subscribe]
      cases hfeed : e.feed with
      | some f => simp only [EventStore.ownFeed, concluded, readied, calls, hfeed]; rfl
      | none => simp only [EventStore.ownFeed, concluded, readied, calls, hfeed]; rfl
  | start wait =>
      simp only [act, Scene.useDesk, EventStore.start, concluded, readied, calls]
      split <;> simp_all
  | stop | background | close => rfl

/-! ### Desks as time goes by -/

namespace Desk

/-- The second desk is the first one at a later time. A handler of which it has let go does not
come back, and a new handler does not send to an old feed. -/
structure Grows (d d' : Desk) : Prop where
  nextHandler : d.handlers.next ≤ d'.handlers.next
  nextFeed : d.feeds.next ≤ d'.feeds.next
  handlers : ∀ h sink, d'.handlers.get? h = some sink → d.handlers.get? h = some sink
    ∨ d.handlers.next ≤ h ∧ ∀ f, sink = .feed f → d.feeds.next ≤ f
  feeds : ∀ f k, d.feeds.get? f = some k → ∃ k', d'.feeds.get? f = some k'
    ∧ k.feed.next ≤ k'.feed.next ∧ (k'.kept = true → k.kept = true)

instance : IsPreorder Desk Grows where
  refl _ := ⟨Nat.le_refl _, Nat.le_refl _, fun _ _ => .inl,
    fun _ k hk => ⟨k, hk, Nat.le_refl _, id⟩⟩
  trans d d' d'' h h' := by
    refine ⟨Nat.le_trans h.nextHandler h'.nextHandler, Nat.le_trans h.nextFeed h'.nextFeed, ?_, ?_⟩
    · intro g sink hg
      rcases h'.handlers g sink hg with hg | ⟨hlater, hfeed⟩
      · exact h.handlers g sink hg
      · exact .inr ⟨Nat.le_trans h.nextHandler hlater,
          fun f hf => Nat.le_trans h.nextFeed (hfeed f hf)⟩
    · intro f k hk
      obtain ⟨k', hk', hnext, hkept⟩ := h.feeds f k hk
      obtain ⟨k'', hk'', hnext', hkept'⟩ := h'.feeds f k' hk'
      exact ⟨k'', hk'', Nat.le_trans hnext hnext', hkept ∘ hkept'⟩

variable (d : Desk)

/-- The journals do not matter. -/
theorem grows_of_same {d' : Desk} (hhandlers : d'.handlers = d.handlers)
    (hfeeds : d'.feeds = d.feeds) :
  d.Grows d'
  := by
  constructor
  · exact Nat.le_of_eq (congrArg Table.next hhandlers.symm)
  · exact Nat.le_of_eq (congrArg Table.next hfeeds.symm)
  · rw [hhandlers]
    exact fun _ _ => .inl
  · rw [hfeeds]
    exact fun _ k hk => ⟨k, hk, Nat.le_refl _, id⟩

theorem grows_modify (f : Nat) {g : DeskFeed → DeskFeed}
    (hg : ∀ k : DeskFeed, k.feed.next ≤ (g k).feed.next ∧ ((g k).kept = true → k.kept = true)) :
  d.Grows { d with feeds := d.feeds.modify f g }
  := by
  refine ⟨Nat.le_refl _, Nat.le_refl _, fun _ _ => .inl, ?_⟩
  intro f' k hk
  have hmodified := Table.get?_modify (t := d.feeds) f' f g
  rw [hk] at hmodified
  split at hmodified
  · exact ⟨g k, hmodified, hg k⟩
  · exact ⟨k, hmodified, Nat.le_refl _, id⟩

variable {d} in
/-- To be called gives the desk no handler. -/
theorem found_call {c : HandlerCall} {h : HandlerRef} {sink : Sink}
    (hfound : (d.call c).handlers.get? h = some sink) :
  d.handlers.get? h = some sink
  := by
  cases c with
  | deliver g n =>
      rw [handlers_call_deliver] at hfound
      exact hfound
  | release g =>
      rw [call, Table.get?_erase] at hfound
      split at hfound
      · cases hfound
      · exact hfound

variable {d} in
theorem found_process {calls : List HandlerCall} {h : HandlerRef} {sink : Sink}
    (hfound : (d.process calls).handlers.get? h = some sink) :
  d.handlers.get? h = some sink
  := by
  induction calls generalizing d with
  | nil => exact hfound
  | cons c calls ih => exact found_call (ih hfound)

theorem grows_call (c : HandlerCall) :
  d.Grows (d.call c)
  := by
  cases c with
  | deliver h n =>
      rw [call]
      split
      case h_1 sink _ =>
          cases sink with
          | journal j => exact d.grows_of_same rfl rfl
          | feed f =>
              apply d.grows_modify f
              exact fun _ => ⟨Nat.le_refl _, id⟩
      case h_2 => exact refl_of Grows d
  | release h =>
      refine ⟨Nat.le_refl _, Nat.le_refl _, ?_, fun _ k hk => ⟨k, hk, Nat.le_refl _, id⟩⟩
      exact fun g sink hg => .inl (found_call hg)

theorem grows_process (calls : List HandlerCall) :
  d.Grows (d.process calls)
  := by
  induction calls generalizing d with
  | nil => exact refl_of Grows d
  | cons c calls ih => exact trans_of Grows (d.grows_call c) (ih (d.call c))

theorem grows_letGo (feed : Option Nat) :
  d.Grows (d.letGo feed)
  := by
  cases feed with
  | none => exact refl_of Grows d
  | some f =>
      apply d.grows_modify f
      intro k
      exact ⟨Nat.le_refl _, fun h => by cases h⟩

theorem grows_subscribe (f : Nat) :
  d.Grows (d.subscribe f).2
  := by
  apply d.grows_modify f
  exact fun _ => ⟨Nat.le_succ _, id⟩

theorem grows_feed :
  d.Grows d.feed.2
  := ⟨Nat.le_refl _, Nat.le_succ _, fun _ _ => .inl,
    fun _ k hk => ⟨k, Table.get?_insert_of_some hk _, Nat.le_refl _, id⟩⟩

variable {d}

/-- A new handler sends to a journal, or to a feed that is new as well. -/
theorem Grows.handler {d' : Desk} (h : d.Grows d') (sink : Sink)
    (hnew : ∀ f, sink = .feed f → d.feeds.next ≤ f) :
  d.Grows (d'.handler sink).2
  := by
  refine ⟨Nat.le_trans h.nextHandler (Nat.le_succ _), h.nextFeed, ?_, h.feeds⟩
  intro g sink' hg
  rcases Table.found_insert hg with hg | ⟨rfl, rfl⟩
  · exact h.handlers g sink' hg
  · exact .inr ⟨h.nextHandler, hnew⟩

end Desk

theorem DeskDeed.grows_act (deed : DeskDeed) (d : Desk) :
  d.Grows (deed.act d)
  := by
  cases deed with
  | newJournal | takeJournal j => exact d.grows_of_same rfl rfl
  | receive r | drain r | drop r =>
      apply d.grows_modify r.feed
      exact fun _ => ⟨Nat.le_refl _, id⟩

namespace StoreDeed

variable (e : EventStore Archive) (deed : StoreDeed)

theorem grows_readied (d : Desk) :
  d.Grows (deed.readied e d)
  := by
  cases deed with
  | setHandler journal =>
      apply (d.grows_letGo e.feed).handler
      intro f hf
      cases hf
  | subscribe =>
      rw [readied]
      split
      · apply d.grows_feed.handler
        intro f hf
        exact Nat.le_of_eq (Sink.feed.inj hf)
      · exact refl_of Desk.Grows d
  | _ => exact refl_of Desk.Grows d

theorem grows_concluded (before d : Desk) :
  d.Grows (deed.concluded e before d)
  := by
  cases deed with
  | subscribe => apply d.grows_subscribe
  | close => apply d.grows_letGo
  | _ => exact refl_of Desk.Grows d

theorem grows_act (s : Scene) :
  s.1.desk.Grows (deed.act e s).2.1.desk
  := by
  rw [desk_act]
  apply trans_of Desk.Grows (deed.grows_readied e s.1.desk)
  apply trans_of Desk.Grows (Desk.grows_process _ _)
  apply deed.grows_concluded

end StoreDeed

/-! ### Calls of the archive -/

/-- Listening begins if the library says so. -/
theorem StoreDeed.turn_start (e : EventStore Archive) (wait : Bool) (s : Scene) :
  (start wait).turn ((start wait).act e s).1
    = if (e.store.library.backend.startListening e.store.ref wait s.2).1.started then .began wait
      else .rest
  := by
  simp only [act, Scene.useDesk]
  rcases hresult : e.start wait (s.1.desk, s.2) with ⟨result, desk, a⟩
  have hfirst : (e.start wait (s.1.desk, s.2)).1 = result := by rw [hresult]
  simp only [EventStore.start] at hfirst
  split at hfirst
  case isTrue hstarted =>
      rw [if_pos hstarted]
      rw [Library.releaseError_ok] at hfirst
      subst hfirst
      rfl
  case isFalse hrefused =>
      have herror : ∃ h, result = .error h := by
        rw [← hfirst]
        exact Library.failure_error _ _ _ _
      obtain ⟨h, rfl⟩ := herror
      rw [if_neg hrefused]
      rfl

namespace StoreDeed

variable {e : EventStore Archive} (honest : e.store.library.Honest)
  (hx : s.2.stores.get? e.store.ref = some x)

include honest hx

/-- The calls are those of the turn that the store takes. -/
theorem calls_of_turns {deed : StoreDeed} (h : deed.turns = true) :
  deed.calls e s.1.desk s.2 = (x.turn (deed.turn (deed.act e s).1)).1
  := by
  have hbackend : e.store.library.backend = Archive.backend := honest
  cases deed with
  | discardUnit unit =>
      simp only [calls, act, Scene.useDesk, EventStore.discardUnit, Access.terminated, hbackend]
      cases hunit : Text.terminated? unit with
      | none => rfl
      | some octets =>
          have hcalls := (Archive.discardUnit_eq hx octets).1
          rw [Text.decode_terminated hunit] at hcalls
          exact hcalls
  | start wait =>
      have hcalls : (Archive.startListening e.store.ref wait s.2).1.calls
          = (x.turn (if (Archive.startListening e.store.ref wait s.2).1.started then .began wait
              else .rest)).1 := by
        rcases Archive.startListening_eq hx wait with
          ⟨hstarted, -, hcalls, -⟩ | ⟨hstarted, hcalls, -⟩
        all_goals
          rw [hstarted, hcalls]
          rfl
      rw [turn_start, calls, hbackend]
      exact hcalls
  | stop =>
      rw [calls, hbackend]
      exact (Archive.withStore_eq hx ArchiveStore.stopListening).1
  | background =>
      rw [calls, hbackend]
      exact (Archive.withStore_eq hx ArchiveStore.deliverPending).1
  | setHandler journal => cases h
  | subscribe => cases h
  | close => cases h
  | _ => rfl

/-- A store that is given a handler lets go of the one before it. -/
theorem calls_of_installs {deed : StoreDeed} (h : deed.installs e = true) :
  deed.calls e s.1.desk s.2 = x.releaseHandler
  := by
  have hbackend : e.store.library.backend = Archive.backend := honest
  have hinstalled := (Archive.withStore_eq hx
    (ArchiveStore.setHandler s.1.desk.handlers.next)).1
  cases deed with
  | setHandler journal =>
      rw [calls, hbackend]
      exact hinstalled
  | subscribe =>
      have hfeed : e.feed = none := by simpa [installs] using h
      simp only [calls, hfeed, hbackend]
      exact hinstalled
  | _ => cases h

theorem calls_close :
  close.calls e s.1.desk s.2 = x.close
  := by
  have hbackend : e.store.library.backend = Archive.backend := honest
  simp only [calls, hbackend, Archive.backend, Archive.disposeStore, hx]

omit honest hx in
/-- The store after an operation other than to close it. The next handler of the desk is
installed if one is. -/
def left (e : EventStore Archive) (next : HandlerRef) (x : ArchiveStore) (deed : StoreDeed)
    (result : Except Halt Unit) : ArchiveStore :=
  { (x.turn (deed.turn result)).2 with
    handler := if deed.installs e then some next else x.handler }

/-- Whatever happens to a store leaves the other stores alone. -/
theorem act_with {deed : StoreDeed} (hclose : deed ≠ .close) :
  ∃ x', (left e s.1.desk.handlers.next x deed (deed.act e s).1).Alike x'
    ∧ Archive.With e.store.ref x' s.2 (deed.act e s).2.2
  := by
  by_cases hturns : deed.turns = true
  · obtain ⟨⟨x', halike, hserves⟩, -⟩ := act_serves honest hx hturns
    have hinstalls : deed.installs e = false := by
      cases deed with
      | setHandler journal => cases hturns
      | subscribe => cases hturns
      | _ => rfl
    refine ⟨x', ?_, hserves.archive⟩
    constructor
    · simp only [left, hinstalls, halike.handler, ArchiveStore.handler_turn]
      rfl
    · exact halike.listening
    · exact halike.pending
    · exact halike.units
  · cases deed with
    | setHandler journal =>
        obtain ⟨-, hwith⟩ :=
          EventStore.install_eq honest hx (.journal journal) (s.1.desk.letGo e.feed)
        rw [Desk.handlers_letGo] at hwith
        exact ⟨_, .refl _, hwith⟩
    | subscribe =>
        cases hfeed : e.feed with
        | some f =>
            rw [act_subscribe]
            simp only [EventStore.ownFeed, hfeed]
            refine ⟨x, ⟨?_, rfl, rfl, rfl⟩, Archive.with_of_still hx rfl⟩
            simp [left, installs, hfeed]
        | none =>
            obtain ⟨-, hwith⟩ :=
              EventStore.install_eq honest hx (.feed s.1.desk.feed.1) s.1.desk.feed.2
            rw [act_subscribe]
            simp only [EventStore.ownFeed, hfeed]
            refine ⟨{ x with handler := some s.1.desk.handlers.next }, ⟨?_, rfl, rfl, rfl⟩, hwith⟩
            simp [left, installs, hfeed]
    | close => exact absurd rfl hclose
    | _ => exact absurd rfl hturns

end StoreDeed

/-! ### Traces -/

namespace Deed

variable (ref : StoreRef) (s : Scene)

/-- The store of a reference and what is done with it, if that is what the operation is. -/
def at? : Deed → Option (EventStore Archive × StoreDeed)
  | onStore store deed => if store = ref then (s.1.store? ref).map fun e => (e, deed) else none
  | _ => none

/-- The calls that the library makes for a store during an operation. -/
def calls (deed : Deed) : List HandlerCall :=
  match deed.at? ref s with
  | some (e, deed) => deed.calls e s.1.desk s.2
  | none => []

variable {ref : StoreRef} {s : Scene}

theorem at?_onStore {e : EventStore Archive} (he : s.1.store? ref = some e) (deed : StoreDeed) :
  (onStore ref deed).at? ref s = some (e, deed)
  := by
  simp [at?, he]

theorem at?_of_ne {store : StoreRef} (h : store ≠ ref) (deed : StoreDeed) :
  (onStore store deed).at? ref s = none
  := if_neg h

/-- What is done with a store is done with one that is held. -/
theorem of_at? {deed : Deed} {e : EventStore Archive} {d : StoreDeed}
    (hat : deed.at? ref s = some (e, d)) :
  deed = .onStore ref d ∧ s.1.store? ref = some e
  := by
  cases deed with
  | onStore store deed =>
      rw [at?] at hat
      split at hat
      case isTrue href =>
          obtain ⟨e', he', heq⟩ := Option.map_eq_some_iff.mp hat
          obtain ⟨rfl, rfl⟩ := Prod.mk.inj heq
          subst href
          exact ⟨rfl, he'⟩
      case isFalse => cases hat
  | _ => cases hat

theorem calls_onStore {e : EventStore Archive} (he : s.1.store? ref = some e)
    (deed : StoreDeed) :
  (onStore ref deed).calls ref s = deed.calls e s.1.desk s.2
  := by
  rw [calls, at?_onStore he]

end Deed

/-- The operation does no more with an open store than read, and nothing at the event desk. -/
def Deed.Rests (s : Scene) : Deed → Prop
  | onStore store deed => s.1.store? store = none ∨ deed.reads = true
  | onDesk _ => False
  | _ => True

/-- What an operation can be, as far as open stores and the event desk are concerned. -/
inductive Scene.Does (s : Scene) : Deed → Scene → Prop where
  | still {deed : Deed} {s' : Scene} (h : Still s s') (hrests : deed.Rests s) : Does s deed s'
  | onDesk (deed : DeskDeed) : Does s (.onDesk deed) (deed.run s).2
  | opens {l : Library Archive} {path : String} {options : Option OptionsRef}
      {e : EventStore Archive} {x : ArchiveStore} {s' : Scene} (h : Opens s e x s') :
      Does s (.openStore l path options) s'
  | onStore {e : EventStore Archive} {x : ArchiveStore} {deed : StoreDeed} (u : Use)
      (held : s.1.store? e.store.ref = some e) (honest : e.store.library.Honest)
      (opened : s.2.stores.get? e.store.ref = some x) (hreads : deed.reads = false) :
      Does s (.onStore e.store.ref deed) (deed.act e (s.1.note u, s.2)).2

theorem StoreDeed.calls_of_reads (e : EventStore Archive) {deed : StoreDeed}
    (h : deed.reads = true) (d : Desk) (a : Archive) :
  deed.calls e d a = []
  := by
  cases deed with
  | unitNames _ | unitNamesFiltered _ | unitName _ | unitTime _ | openRecord _ | openUnit _ => rfl
  | _ => cases h

/-- An operation that rests only reads from the store that it is on. -/
theorem Deed.Rests.reads {deed : Deed} (h : deed.Rests s) {e : EventStore Archive} {d : StoreDeed}
    (hat : deed.at? ref s = some (e, d)) :
  d.reads = true
  := by
  obtain ⟨rfl, he⟩ := of_at? hat
  rcases h with hnone | hreads
  · rw [he] at hnone
    cases hnone
  · exact hreads

theorem Deed.calls_of_rests {deed : Deed} (h : deed.Rests s) (ref : StoreRef) :
  deed.calls ref s = []
  := by
  rw [calls]
  split
  case h_1 hat => exact StoreDeed.calls_of_reads _ (h.reads hat) _ _
  case h_2 => rfl

theorem Deed.run_does (deed : Deed) (hs : s.Sound) :
  s.Does deed (deed.run s).2
  := by
  cases deed with
  | changeDisk f | createOptions l | addMapping options source target | disposeOptions options
  | onRecord record deed | onUnit unit deed | onItem l deed =>
      refine .still (Deed.run_still ?_ hs) ?_ <;> trivial
  | onDesk deed => exact .onDesk deed
  | openStore l path options =>
      rcases Scene.still_or_opens s l path options with hstill | ⟨e, x, hopens⟩
      · exact .still hstill trivial
      · exact .opens hopens
  | onStore ref deed =>
      cases he : s.1.store? ref with
      | none =>
          rw [Deed.run_onStore_of_none he]
          exact .still (refl_of Scene.Still s) (.inl he)
      | some e =>
          cases hreads : deed.reads with
          | true => exact .still (Deed.run_still hreads hs) (.inr hreads)
          | false =>
              obtain ⟨rfl, -, honest, x, hx⟩ := hs.store_held he
              rw [Deed.run_onStore he]
              exact .onStore ⟨e.store.directory, deed.installs e⟩ he honest hx hreads

/-- Whatever a client does, its desk goes on. -/
theorem Scene.Does.grows {deed : Deed} (h : s.Does deed s') :
  s.1.desk.Grows s'.1.desk
  := by
  cases h with
  | still h => apply s.1.desk.grows_of_same <;> rw [h.desk]
  | onDesk deed => apply deed.grows_act
  | opens h => apply s.1.desk.grows_of_same <;> rw [h.desk]
  | onStore u _ _ _ _ => exact StoreDeed.grows_act _ _ (s.1.note u, s.2)

/-- A client goes from one scene to another, and each operation leaves its part of a trace. -/
inductive Scene.Traces {ε : Type} (allowed : Scene → Deed → Prop)
    (part : Scene → Deed → List ε) (s : Scene) : List ε → Scene → Prop where
  | here : Traces allowed part s [] s
  | deed {trace : List ε} {x : Scene} {deed : Deed} (h : Traces allowed part s trace x)
      (hdeed : allowed x deed) : Traces allowed part s (trace ++ part x deed) (deed.run x).2
  /-- The beginning of a traversal or of a search. -/
  | begun {trace : List ε} {x y : Scene} (h : Traces allowed part s trace x)
      (hmove : x.Move (fun _ _ => False) y) : Traces allowed part s trace y

namespace Scene

/-- A property of scenes that single operations keep is kept on the way from one scene to
another. -/
theorem Goes.keeps_of_aside {allowed : Scene → Deed → Prop} {P : Scene → Prop}
    (hgoes : s.Goes allowed s')
    (haside : ∀ x y, Aside x y → P x → P y)
    (hdeed : ∀ x deed, allowed x deed → x.Sound → x.Attached → P x → P (deed.run x).2)
    (hs : s.Sound) (hattached : s.Attached) (h : P s) :
  s'.Sound ∧ s'.Attached ∧ P s'
  := by
  induction hgoes with
  | refl => exact ⟨hs, hattached, h⟩
  | tail _ hmove ih =>
      obtain ⟨hs₁, hattached₁, h₁⟩ := ih
      obtain ⟨hs', ⟨deed, hallowed, rfl⟩ | hquiet⟩ := hmove.deed_or_aside hs₁
      · exact ⟨hs', hattached₁.run hs₁ deed, hdeed _ deed hallowed hs₁ hattached₁ h₁⟩
      · exact ⟨hs', hattached₁.still hquiet.still, haside _ _ hquiet h₁⟩

theorem Goes.keeps {allowed : Scene → Deed → Prop} {P : Scene → Prop} (hgoes : s.Goes allowed s')
    (hstill : ∀ x y, Still x y → P x → P y)
    (hdeed : ∀ x deed, allowed x deed → x.Sound → x.Attached → P x → P (deed.run x).2)
    (hs : s.Sound) (hattached : s.Attached) (h : P s) :
  s'.Sound ∧ s'.Attached ∧ P s'
  := by
  apply hgoes.keeps_of_aside _ hdeed hs hattached h
  exact fun x y haside => hstill x y haside.still

end Scene

namespace Scene.Traces

variable {ε : Type} {allowed : Scene → Deed → Prop} {part : Scene → Deed → List ε}
  {trace : List ε}

theorem goes (h : s.Traces allowed part trace s') :
  s.Goes allowed s'
  := by
  induction h with
  | here => exact .refl
  | deed _ hdeed ih => exact ih.tail (.deed hdeed)
  | begun _ hmove ih =>
      apply ih.tail
      cases hmove with
      | deed hdeed => cases hdeed
      | refused h => exact .refused h
      | begun h => exact .begun h
      | searched h => exact .searched h

end Scene.Traces

end SymbolIndex
