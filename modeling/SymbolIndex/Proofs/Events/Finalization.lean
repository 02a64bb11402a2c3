import SymbolIndex.Proofs.Events.Lifetime
import SymbolIndex.Proofs.Events.Replay

/-!
# Handlers are finalized once

The story of the handlers of a store goes on with each operation of a client, and with a delivery
that has been left to the background: at some point the handler is called for it, and it returns
when the delivery ends, or when listening ends or the store is closed, which wait for it. In each
such story every handler is finalized exactly once and is not used afterwards.
-/

namespace SymbolIndex

variable {s s' : Scene} {ref : StoreRef} {x x' : ArchiveStore} {t : Story} {entered : Bool}

open HandlerEvent (installed began closing)
open ArchiveStore (notification)
open HandlerCall (story storyFrom)

/-! ### What happens during an operation -/

namespace StoreDeed

/-- The operation waits for what has been left to the background. -/
def awaits : StoreDeed → Bool
  | stop | background | close => true
  | _ => false

variable (e : EventStore Archive)

/-- What happens before the library calls any handler. -/
def prelude (d : Desk) (a : Archive) : StoreDeed → Story
  | setHandler _ => [installed d.handlers.next]
  | subscribe => if e.feed.isNone then [installed d.handlers.next] else []
  | start wait =>
    if (e.store.library.backend.startListening e.store.ref wait a).1.started then
      ((a.stores.get? e.store.ref).map ArchiveStore.beginning).getD []
    else []
  | close => [closing]
  | _ => []

/-- What happens to the handlers of the store. The handler may have been called already for what
has been left to the background. -/
def story (d : Desk) (a : Archive) (entered : Bool) (deed : StoreDeed) : Story :=
  deed.prelude e d a ++ storyFrom (entered && deed.awaits) (deed.calls e d a)

end StoreDeed

namespace Deed

variable (ref : StoreRef) (s : Scene)

/-- What happens to the handlers of a store during an operation. -/
def story (entered : Bool) (deed : Deed) : Story :=
  match deed.at? ref s with
  | some (e, deed) => deed.story e s.1.desk s.2 entered
  | none => []

/-- The operation waits for what the store has left to the background. -/
def awaits (deed : Deed) : Bool := (deed.at? ref s).any fun p => p.2.awaits

end Deed

/-- A client goes from one scene to another, and this happens to the handlers of a store. The last
argument but one tells whether a handler is being called in the background. -/
inductive Scene.Lives (ref : StoreRef) (s : Scene) : Story → Bool → Scene → Prop where
  | here : Lives ref s [] false s
  | deed {t : Story} {entered : Bool} {x : Scene} (h : Lives ref s t entered x) (deed : Deed) :
      Lives ref s (t ++ deed.story ref x entered) (entered && !deed.awaits ref x) (deed.run x).2
  /-- The handler is called for what has been left to the background. -/
  | enter {t : Story} {x : Scene} {y : ArchiveStore} {h : HandlerRef} {n : NotificationView}
      (l : Lives ref s t false x) (hy : x.2.stores.get? ref = some y)
      (hn : y.pending = some (h, n)) : Lives ref s (t ++ [.called h n]) true x
  /-- The beginning of a traversal or of a search. -/
  | begun {t : Story} {entered : Bool} {x y : Scene} (h : Lives ref s t entered x)
      (hmove : x.Move (fun _ _ => False) y) : Lives ref s t entered y

/-- However a client goes, something happens to the handlers of a store. -/
theorem Scene.Goes.lives {allowed : Scene → Deed → Prop} (h : s.Goes allowed s')
    (ref : StoreRef) :
  ∃ t, s.Lives ref t false s'
  := by
  induction h with
  | refl => exact ⟨[], .here⟩
  | tail _ hmove ih =>
      obtain ⟨t, hlives⟩ := ih
      cases hmove with
      | deed _ => exact ⟨_, hlives.deed _⟩
      | refused h => exact ⟨t, hlives.begun (.refused h)⟩
      | begun h => exact ⟨t, hlives.begun (.begun h)⟩
      | searched h => exact ⟨t, hlives.begun (.searched h)⟩

/-! ### Turns -/

namespace Turn

def awaits : Turn → Bool
  | stopped | caughtUp => true
  | _ => false

/-- What happens before any handler is called. -/
def prelude (x : ArchiveStore) : Turn → Story
  | began _ => x.beginning
  | _ => []

end Turn

theorem ArchiveStore.Tells.turn {next : HandlerRef} (ht : x.Tells next entered t) {r : Turn}
    (hbegan : ∀ wait, r = .began wait → x.pending = none) :
  (x.turn r).2.Tells next (entered && !r.awaits)
    (t ++ (r.prelude x ++ storyFrom (entered && r.awaits) (x.turn r).1))
  := by
  cases r with
  | rest => simpa [Turn.awaits, Turn.prelude, storyFrom, story, ArchiveStore.turn] using ht
  | discarded unit =>
      simpa [Turn.awaits, Turn.prelude, storyFrom, ArchiveStore.turn] using ht.discard unit
  | began wait =>
      simpa [Turn.awaits, Turn.prelude, storyFrom, ArchiveStore.turn]
        using ht.listen (hbegan wait rfl) wait
  | stopped =>
      have hsame : ArchiveStore.Tells { x with listening := false } _ entered t := ht.of_same rfl rfl
      simpa [Turn.awaits, Turn.prelude, ArchiveStore.turn, ArchiveStore.stopListening]
        using hsame.deliverPending
  | caughtUp => simpa [Turn.awaits, Turn.prelude, ArchiveStore.turn] using ht.deliverPending

namespace StoreDeed

variable {e : EventStore Archive} (honest : e.store.library.Honest)
  (hx : s.2.stores.get? e.store.ref = some x)

include honest hx

/-- What happens is what happens in the turn that the store takes. -/
theorem story_of_turns {deed : StoreDeed} (h : deed.turns = true) (entered : Bool) :
  let r := deed.turn (deed.act e s).1
  deed.awaits = r.awaits
    ∧ deed.story e s.1.desk s.2 entered
        = r.prelude x ++ storyFrom (entered && r.awaits) (x.turn r).1
  := by
  have hcalls := calls_of_turns honest hx h
  simp only [story, hcalls]
  cases deed with
  | discardUnit unit =>
      generalize ((discardUnit unit).act e s).1 = result
      cases result <;> exact ⟨rfl, rfl⟩
  | start wait =>
      rw [turn_start, prelude, hx]
      split <;> exact ⟨rfl, rfl⟩
  | setHandler journal => cases h
  | subscribe => cases h
  | close => cases h
  | _ => exact ⟨rfl, rfl⟩

end StoreDeed

/-! ### Operations -/

/-- The handler that is installed is handed out. -/
theorem StoreDeed.next_act {e : EventStore Archive} (deed : StoreDeed)
    (hinstalls : deed.installs e = true) (s : Scene) :
  s.1.desk.handlers.next + 1 ≤ (deed.act e s).2.1.desk.handlers.next
  := by
  have hreadied : (deed.readied e s.1.desk).handlers.next = s.1.desk.handlers.next + 1 := by
    cases deed with
    | setHandler journal =>
        rw [readied]
        exact congrArg (Table.next · + 1) (Desk.handlers_letGo s.1.desk e.feed)
    | subscribe =>
        have hfeed : e.feed = none := by simpa [installs] using hinstalls
        simp only [readied, hfeed]
        rfl
    | _ => cases hinstalls
  rw [desk_act, ← hreadied]
  apply Desk.Grows.nextHandler
  exact trans_of Desk.Grows (Desk.grows_process _ _) (deed.grows_concluded e s.1.desk _)

theorem StoreDeed.story_of_reads (e : EventStore Archive) {deed : StoreDeed}
    (h : deed.reads = true) (d : Desk) (a : Archive) :
  deed.story e d a entered = [] ∧ deed.awaits = false
  := by
  cases deed with
  | unitNames _ | unitNamesFiltered _ | unitName _ | unitTime _ | openRecord _ | openUnit _ =>
      simp [story, prelude, awaits, calls, storyFrom, HandlerCall.story]
  | _ => cases h

/-- Nothing happens to the handlers of a store that rests. -/
theorem Deed.story_of_rests {deed : Deed} (h : deed.Rests s) (ref : StoreRef) (entered : Bool) :
  deed.story ref s entered = [] ∧ deed.awaits ref s = false
  := by
  rw [story, awaits]
  split
  case h_1 hat =>
      rw [hat]
      exact StoreDeed.story_of_reads _ (h.reads hat) _ _
  case h_2 hat =>
      rw [hat]
      exact ⟨rfl, rfl⟩

/-- A store that is not open keeps no handler. -/
def ArchiveStore.closed : ArchiveStore where
  path := ""
  mappings := []
  contents := {}

namespace Scene

/-- The store of a reference, which may not be open. -/
def storeAt (s : Scene) (ref : StoreRef) : ArchiveStore :=
  (s.2.stores.get? ref).getD .closed

theorem storeAt_of_some (hx : s.2.stores.get? ref = some x) :
  s.storeAt ref = x
  := by
  rw [storeAt, hx]
  rfl

/-- The story of the handlers of a store up to a scene. -/
def Recounts (s : Scene) (ref : StoreRef) (entered : Bool) (t : Story) : Prop :=
  (s.storeAt ref).Tells s.1.desk.handlers.next entered t

theorem Recounts.of_same (ht : s.Recounts ref entered t)
    (hnext : s.1.desk.handlers.next ≤ s'.1.desk.handlers.next)
    (hhandler : (s'.storeAt ref).handler = (s.storeAt ref).handler)
    (hpending : (s'.storeAt ref).pending = (s.storeAt ref).pending) :
  s'.Recounts ref entered t
  := (ArchiveStore.Tells.of_same ht hhandler hpending).mono hnext

theorem Recounts.still (ht : s.Recounts ref entered t) (h : Still s s') :
  s'.Recounts ref entered t
  := by
  have hstores : s'.2.stores = s.2.stores := h.archive
  rw [Recounts, storeAt, hstores, h.desk]
  exact ht

/-- A store is opened. If it is the one of the story, it has no handler yet. -/
theorem Recounts.opens (ht : s.Recounts ref entered t) {e : EventStore Archive}
    (h : Opens s e x s') :
  s'.Recounts ref entered t
  := by
  have hsame : (s'.storeAt ref).handler = (s.storeAt ref).handler
      ∧ (s'.storeAt ref).pending = (s.storeAt ref).pending := by
    cases hx : s.2.stores.get? ref with
    | some y =>
        have hx' : s'.2.stores.get? ref = some y := by
          rw [h.archive]
          exact Table.get?_insert_of_some hx x
        rw [storeAt_of_some hx, storeAt_of_some hx']
        exact ⟨rfl, rfl⟩
    | none =>
        cases hx' : s'.2.stores.get? ref with
        | none => simp [storeAt, hx, hx']
        | some y =>
            obtain ⟨-, rfl⟩ := (h.found hx').resolve_left (by simp [hx])
            rw [storeAt_of_some hx']
            simp [storeAt, hx, h.handler, h.pending, ArchiveStore.closed]
  have hnext : s'.1.desk.handlers.next = s.1.desk.handlers.next := by rw [h.desk]
  exact ht.of_same (Nat.le_of_eq hnext.symm) hsame.1 hsame.2

end Scene

namespace StoreDeed

variable {e : EventStore Archive} (honest : e.store.library.Honest)
  (hx : s.2.stores.get? e.store.ref = some x)

include honest hx

/-- Whatever happens to one store leaves the handlers of the others alone. -/
theorem tells_of_ne (deed : StoreDeed) (hne : ref ≠ e.store.ref) (ht : s.Recounts ref entered t) :
  Scene.Recounts (deed.act e s).2 ref entered t
  := by
  have hget : (deed.act e s).2.2.stores.get? ref = s.2.stores.get? ref := by
    by_cases hclose : deed = .close
    · subst hclose
      rw [(close_eq honest hx).2, Table.get?_erase, if_neg hne]
    · obtain ⟨x', -, hwith⟩ := act_with honest hx hclose
      rw [hwith, if_neg hne]
  have hsame : (deed.act e s).2.storeAt ref = s.storeAt ref := by
    rw [Scene.storeAt, Scene.storeAt, hget]
  apply ht.of_same (deed.grows_act e s).nextHandler <;> rw [hsame]

theorem tells_turn {deed : StoreDeed} (hturns : deed.turns = true)
    (horderly : x.Orderly s.1.desk.handlers.next) (ht : s.Recounts e.store.ref entered t) :
  Scene.Recounts (deed.act e s).2 e.store.ref (entered && !deed.awaits)
    (t ++ deed.story e s.1.desk s.2 entered)
  := by
  obtain ⟨⟨x', halike, hserves⟩, hbegan⟩ := act_serves honest hx hturns
  obtain ⟨hawaits, hstory⟩ := story_of_turns honest hx hturns entered
  have hx' : (deed.act e s).2.2.stores.get? e.store.ref = some x' := by
    rw [hserves.archive, if_pos rfl]
  rw [Scene.Recounts, Scene.storeAt_of_some hx] at ht
  rw [Scene.Recounts, Scene.storeAt_of_some hx', hawaits, hstory]
  -- A store that does not listen has left nothing to the background.
  have hpending : ∀ wait, deed.turn (deed.act e s).1 = .began wait → x.pending = none := by
    intro wait hturn
    cases hp : x.pending with
    | none => rfl
    | some p =>
        have hlistening := (horderly.pending p hp).1
        rw [hbegan wait hturn] at hlistening
        cases hlistening
  apply ((ht.turn hpending).of_same halike.handler halike.pending).mono
  exact (deed.grows_act e s).nextHandler

theorem tells_installs {deed : StoreDeed} (hinstalls : deed.installs e = true)
    (ht : s.Recounts e.store.ref entered t) :
  Scene.Recounts (deed.act e s).2 e.store.ref (entered && !deed.awaits)
    (t ++ deed.story e s.1.desk s.2 entered)
  := by
  have hcalls := calls_of_installs honest hx hinstalls
  have hclose : deed ≠ .close := by
    rintro rfl
    cases hinstalls
  obtain ⟨x', halike, hwith⟩ := act_with honest hx hclose
  have hx' : (deed.act e s).2.2.stores.get? e.store.ref = some x' := by
    rw [hwith, if_pos rfl]
  have hturn : deed.turn (deed.act e s).1 = .rest := by
    cases deed with
    | setHandler journal => rfl
    | subscribe => rfl
    | _ => cases hinstalls
  have hstory : deed.awaits = false
      ∧ deed.prelude e s.1.desk s.2 = [installed s.1.desk.handlers.next] := by
    cases deed with
    | setHandler journal => exact ⟨rfl, rfl⟩
    | subscribe => exact ⟨rfl, if_pos hinstalls⟩
    | _ => cases hinstalls
  have hnext := deed.next_act hinstalls s
  rw [left, hturn, if_pos hinstalls] at halike
  rw [Scene.Recounts, Scene.storeAt_of_some hx] at ht
  rw [Scene.Recounts, Scene.storeAt_of_some hx', story, hstory.1, hstory.2, hcalls,
    Bool.and_false, Bool.not_false, Bool.and_true]
  exact (ht.setHandler.of_same halike.handler halike.pending).mono hnext

theorem tells_close (ht : s.Recounts e.store.ref entered t) :
  Scene.Recounts (close.act e s).2 e.store.ref false (t ++ close.story e s.1.desk s.2 entered)
  := by
  obtain ⟨hdesk, hstores⟩ := close_eq honest hx
  have hcalls := calls_close honest hx
  have hclosed : (close.act e s).2.storeAt e.store.ref = .closed := by
    rw [Scene.storeAt, hstores, Table.get?_erase, if_pos rfl]
    rfl
  rw [Scene.Recounts, Scene.storeAt_of_some hx] at ht
  obtain ⟨hupto, hnone⟩ := ht.close
  rw [Scene.Recounts, hclosed, story, hcalls, ← List.append_assoc, awaits, Bool.and_true]
  refine ⟨hupto.mono (close.grows_act e s).nextHandler, ?_, nofun, nofun⟩
  exact fun h hh => absurd hh (hnone h)

theorem tells_act (deed : StoreDeed) (horderly : x.Orderly s.1.desk.handlers.next)
    (ht : s.Recounts e.store.ref entered t) :
  Scene.Recounts (deed.act e s).2 e.store.ref (entered && !deed.awaits)
    (t ++ deed.story e s.1.desk s.2 entered)
  := by
  by_cases hturns : deed.turns = true
  · exact tells_turn honest hx hturns horderly ht
  · cases deed with
    | setHandler journal => exact tells_installs honest hx rfl ht
    | subscribe =>
        cases hfeed : e.feed with
        | none => exact tells_installs honest hx (congrArg Option.isNone hfeed) ht
        | some f =>
            -- A further subscriber shares the feed, and nothing happens to the handlers.
            have hstory : subscribe.story e s.1.desk s.2 entered = [] := by
              simp [story, prelude, awaits, calls, storyFrom, HandlerCall.story, hfeed]
            have hawaits : subscribe.awaits = false := rfl
            rw [hstory, List.append_nil, hawaits, Bool.not_false, Bool.and_true, act_subscribe]
            simp only [EventStore.ownFeed, hfeed]
            exact ht.of_same (Nat.le_refl _) rfl rfl
    | close =>
        rw [awaits, Bool.not_true, Bool.and_false]
        exact tells_close honest hx ht
    | _ => exact absurd rfl hturns

end StoreDeed

namespace Scene

/-- An operation goes on with the story. -/
theorem Recounts.does (ht : s.Recounts ref entered t) (hs : s.Sound) {deed : Deed}
    (h : s.Does deed s') :
  s'.Recounts ref (entered && !deed.awaits ref s) (t ++ deed.story ref s entered)
  := by
  have hnothing : deed.story ref s entered = [] ∧ deed.awaits ref s = false →
      s'.Recounts ref entered t →
      s'.Recounts ref (entered && !deed.awaits ref s) (t ++ deed.story ref s entered) := by
    rintro ⟨hstory, hawaits⟩ ht'
    rw [hstory, hawaits, List.append_nil, Bool.not_false, Bool.and_true]
    exact ht'
  cases h with
  | still h hrests => exact hnothing (Deed.story_of_rests hrests ref entered) (ht.still h)
  | onDesk deed =>
      apply hnothing ⟨rfl, rfl⟩
      exact ht.of_same (deed.grows_act s.1.desk).nextHandler rfl rfl
  | opens h => exact hnothing ⟨rfl, rfl⟩ (ht.opens h)
  | @onStore e y deed u held honest opened _ =>
      by_cases href : e.store.ref = ref
      · subst href
        rw [Deed.story, Deed.awaits, Deed.at?_onStore held]
        exact deed.tells_act (s := (s.1.note u, s.2)) honest opened (hs.archive.orderly opened) ht
      · have hat := Deed.at?_of_ne (s := s) href deed
        apply hnothing
        · rw [Deed.story, Deed.awaits, hat]
          exact ⟨rfl, rfl⟩
        · exact deed.tells_of_ne (s := (s.1.note u, s.2)) honest opened (Ne.symm href) ht

/-- The handler is called in the background. -/
theorem Recounts.enter (ht : s.Recounts ref false t) (hx : s.2.stores.get? ref = some x)
    {h : HandlerRef} {n : NotificationView} (hn : x.pending = some (h, n)) :
  s.Recounts ref true (t ++ [.called h n])
  := by
  rw [Recounts, storeAt_of_some hx] at ht ⊢
  have hupto := ht.upto
  simp only [ArchiveStore.delivery, hn] at hupto
  refine ⟨?_, ?_, ht.first, fun _ => ⟨(h, n), hn⟩⟩
  · simp only [ArchiveStore.delivery, hn]
    exact hupto.enter (ht.first h n hn)
  · intro g hg
    apply ht.kept
    rwa [Story.live_append (by simp [HandlerEvent.Quiet])] at hg

theorem start_recounts (disk : Disk) (ref : StoreRef) :
  (start disk).Recounts ref false []
  := by
  have hupto : Story.Upto [] 0 none .none := .nil 0
  have hnothing : ∀ h, ¬ Story.Live [] h := fun _ hh => List.not_mem_nil hh.1
  exact ⟨hupto, fun h hh => absurd hh (hnothing h), nofun, nofun⟩

/-- The story is told up to every scene that a client gets to. -/
theorem Lives.recounts (h : s.Lives ref t entered s') (hs : s.Sound)
    (hstart : s.Recounts ref false []) :
  s'.Sound ∧ s'.Recounts ref entered t
  := by
  induction h with
  | here => exact ⟨hs, hstart⟩
  | @deed t entered y _ deed ih =>
      obtain ⟨hsound, ht⟩ := ih
      exact ⟨(deed.run_leads y hsound).1, ht.does hsound (deed.run_does hsound)⟩
  | enter _ hy hn ih => exact ⟨ih.1, ih.2.enter hy hn⟩
  | begun _ hmove ih =>
      obtain ⟨hsound, ht⟩ := ih
      obtain ⟨hsound', ⟨deed, hnever, -⟩ | hstill⟩ := hmove.deed_or_still hsound
      · cases hnever
      · exact ⟨hsound', ht.still hstill⟩

end Scene

/-! ### Handlers that have been finalized -/

namespace Story

variable {h : HandlerRef}

theorem finalizes_iff {ev : HandlerEvent} :
  ev.finalizes h = true ↔ ev = .finalized h
  := by
  cases ev <;> simp [HandlerEvent.finalizes]

/-- No handler is finalized twice. -/
theorem Orderly.countP_finalizes (ht : t.Orderly) (hfinalized : .finalized h ∈ t) :
  t.countP (HandlerEvent.finalizes h) = 1
  := by
  -- At the first time the handler is finalized nothing else happens to it any more.
  obtain ⟨before, after, rfl, hfirst⟩ := List.eq_append_cons_of_mem hfinalized
  obtain ⟨-, hafter⟩ := ht before h after rfl
  have hbefore : before.countP (HandlerEvent.finalizes h) = 0 := by
    rw [List.countP_eq_zero]
    intro ev hev hfinal
    obtain rfl := finalizes_iff.mp hfinal
    exact hfirst hev
  have hrest : after.countP (HandlerEvent.finalizes h) = 0 := by
    rw [List.countP_eq_zero]
    intro ev hev hfinal
    obtain rfl := finalizes_iff.mp hfinal
    exact hafter _ hev rfl
  rw [List.countP_append, List.countP_cons_of_pos (finalizes_iff.mpr rfl), hbefore, hrest]

end Story

/-- What becomes of the handlers of a store in a story. -/
structure Scene.Finalizes (s : Scene) (ref : StoreRef) (entered : Bool) (t : Story) : Prop where
  /-- No handler is installed twice. -/
  once : ∀ h, t.countP (HandlerEvent.installs h) ≤ 1
  /-- Nothing happens to a handler that has not been installed. -/
  known : ∀ ev ∈ t, ∀ h, ev.handler? = some h → installed h ∈ t
  /-- A handler is not finalized before the time has come, and is not used afterwards. -/
  orderly : t.Orderly
  /-- Those that are not finalized yet are in use, or something is left to deliver to them. -/
  live : ∀ h, t.Live h ↔ (s.storeAt ref).Keeps h
  /-- Each handler of a store that is not open any more has been finalized exactly once. -/
  finalized : s.2.stores.get? ref = none →
    ∀ h, installed h ∈ t → t.countP (HandlerEvent.finalizes h) = 1
  /-- A store that has been closed is not open any more. -/
  closes : (s.1.store? ref).isSome → (s.after ref .close).2.stores.get? ref = none
  /-- Whoever begins to listen owes a first notification to the handler of the store. -/
  starts : ∀ wait, (s.1.store? ref).isSome → s.Succeeds ref (.start wait) →
    ((Deed.onStore ref (.start wait)).story ref s entered).filterMap HandlerEvent.due?
      = (s.storeAt ref).first?.toList
  /-- Nobody else does. -/
  owes : ∀ deed h n, began h n ∈ Deed.story ref s entered deed →
    ∃ wait, deed = .onStore ref (.start wait) ∧ s.Succeeds ref (.start wait)
  /-- The handler to which it is owed is the one that has been installed last. -/
  addressed : t.Addressed
  /-- Each first notification goes once to the handler to which it is owed, and until then it is
  left to the background. -/
  told : t.filterMap HandlerEvent.due? = t.filterMap HandlerEvent.told?
    ++ if entered then [] else (s.storeAt ref).pending.toList

/-! ### First notifications that are owed -/

theorem HandlerCall.due?_storyFrom (calls : List HandlerCall) :
  (storyFrom entered calls).filterMap HandlerEvent.due? = []
  := by
  have hstory : ∀ ev ∈ story calls, ev.due? = none := by
    intro ev hev
    obtain ⟨c, -, hc⟩ := List.mem_flatMap.mp hev
    cases c with
    | deliver h n =>
        rcases List.mem_pair.mp hc with rfl | rfl <;> rfl
    | release h =>
        obtain rfl := List.mem_singleton.mp hc
        rfl
  rw [List.filterMap_eq_nil_iff]
  intro ev hev
  apply hstory
  rw [storyFrom] at hev
  split at hev
  · exact List.mem_of_mem_tail hev
  · exact hev

theorem ArchiveStore.due?_beginning (x : ArchiveStore) :
  x.beginning.filterMap HandlerEvent.due? = x.first?.toList
  := by
  rw [beginning]
  cases x.first? <;> rfl

/-- What is owed is owed by whoever begins to listen. -/
theorem StoreDeed.due?_story {e : EventStore Archive} (honest : e.store.library.Honest)
    (hx : s.2.stores.get? e.store.ref = some x) (deed : StoreDeed) :
  (deed.story e s.1.desk s.2 entered).filterMap HandlerEvent.due?
    = match deed.turn (deed.act e s).1 with
      | .began _ => x.first?.toList
      | _ => []
  := by
  by_cases hturns : deed.turns = true
  · rw [(story_of_turns honest hx hturns entered).2, List.filterMap_append, HandlerCall.due?_storyFrom,
      List.append_nil]
    generalize deed.turn (deed.act e s).1 = r
    cases r with
    | began wait => exact x.due?_beginning
    | _ => rfl
  · rw [story, List.filterMap_append, HandlerCall.due?_storyFrom, List.append_nil]
    cases deed with
    | setHandler journal => rfl
    | subscribe =>
        rw [prelude]
        split <;> rfl
    | close => rfl
    | _ => exact absurd rfl hturns

namespace Scene

/-- The operations on a store that is held. -/
theorem due?_story_onStore (hs : s.Sound) {e : EventStore Archive}
    (he : s.1.store? ref = some e) (deed : StoreDeed) :
  ((Deed.onStore ref deed).story ref s entered).filterMap HandlerEvent.due?
    = match deed.turn ((Deed.onStore ref deed).run s).1 with
      | .began _ => (s.storeAt ref).first?.toList
      | _ => []
  := by
  obtain ⟨rfl, -, honest, x, hx⟩ := hs.store_held he
  rw [Deed.story, Deed.at?_onStore he, Deed.run_onStore he, storeAt_of_some hx]
  exact deed.due?_story (s := (s.1.note ⟨e.store.directory, deed.installs e⟩, s.2)) honest hx

theorem owes_of_sound (hs : s.Sound) {deed : Deed} {h : HandlerRef} {n : NotificationView}
    (hev : began h n ∈ deed.story ref s entered) :
  ∃ wait, deed = .onStore ref (.start wait) ∧ s.Succeeds ref (.start wait)
  := by
  have hdue : (h, n) ∈ (deed.story ref s entered).filterMap HandlerEvent.due? :=
    List.mem_filterMap.mpr ⟨_, hev, rfl⟩
  cases hat : deed.at? ref s with
  | none =>
      rw [Deed.story, hat] at hdue
      cases hdue
  | some p =>
      obtain ⟨e, d⟩ := p
      obtain ⟨rfl, he⟩ := Deed.of_at? hat
      rw [due?_story_onStore hs he] at hdue
      generalize hturn : d.turn ((Deed.onStore ref d).run s).1 = r at hdue
      cases r with
      | began wait =>
          obtain ⟨rfl, hok⟩ := StoreDeed.of_turn hturn
          exact ⟨wait, rfl, hok⟩
      | _ => cases hdue

theorem storeAt_of_none (hx : s.2.stores.get? ref = none) :
  s.storeAt ref = .closed
  := by
  rw [storeAt, hx]
  rfl

theorem get?_after_close (hs : s.Sound) (he : (s.1.store? ref).isSome) :
  (s.after ref .close).2.stores.get? ref = none
  := by
  obtain ⟨e, he⟩ := Option.isSome_iff_exists.mp he
  obtain ⟨rfl, -, honest, x, hx⟩ := hs.store_held he
  let u : Use := ⟨e.store.directory, StoreDeed.close.installs e⟩
  obtain ⟨-, hstores⟩ := StoreDeed.close_eq (s := (s.1.note u, s.2)) honest hx
  rw [after, Deed.run_onStore he, hstores, Table.get?_erase, if_pos rfl]

/-- Whatever a client does with a store, and whenever the first notification is delivered that is
left to the background, each handler of the store is finalized exactly once and is not used
afterwards. -/
theorem Lives.handlers_finalized {disk : Disk} (h : (start disk).Lives ref t entered s) :
  s.Finalizes ref entered t
  := by
  obtain ⟨hs, ht⟩ := h.recounts (start_sound disk) (start_recounts disk ref)
  have hupto := ht.upto
  constructor
  · exact hupto.once
  · exact hupto.known
  · exact hupto.orderly
  · exact fun _ => ht.live_iff
  · intro hclosed g hg
    apply hupto.orderly.countP_finalizes
    by_contra hlive
    have hkept := ht.live_iff.mp ⟨hg, hlive⟩
    rw [storeAt_of_none hclosed] at hkept
    rcases hkept with hk | ⟨n, hn⟩
    · cases hk
    · cases hn
  · exact get?_after_close hs
  · intro wait he hok
    obtain ⟨e, he⟩ := Option.isSome_iff_exists.mp he
    rw [due?_story_onStore hs he, hok]
    rfl
  · exact fun _ _ _ => owes_of_sound hs
  · exact hupto.addressed
  · rw [hupto.told, ArchiveStore.delivery]
    cases (s.storeAt ref).pending with
    | none => cases entered <;> rfl
    | some p => cases entered <;> rfl

/-- A handler is replaced while it is called in the background, and is finalized when it has
returned. -/
theorem Lives.handlers_finalized_replaced :
  ∃ s n,
    let t : Story := [installed 0, began 0 n, .called 0 n, installed 1, closing, .returned 0 n,
      .finalized 0, .finalized 1]
    (start (.holding "stores" (some StoreContents.zeroDocument))).Lives 0 t false s
      ∧ s.Finalizes 0 false t
  := by
  let s : Scene := start (.holding "stores" (some StoreContents.zeroDocument))
  let l : Library Archive := .ofArchive .closure
  have hopen := Deed.run_openStore (s := s) (l := l) Text.terminated?_stores
    Disk.readStore_zeroDocument
  have hopened : s.Lives 0 [] false ((Deed.openStore l "stores" none).run s).2 :=
    Lives.here.deed (.openStore l "stores" none)
  rw [hopen] at hopened
  let n : NotificationView := notification true .added ["a\x00b"]
  have hbegan : s.Lives 0 [installed 0, began 0 n] false _ :=
    (hopened.deed (.onStore 0 (.setHandler 0))).deed (.onStore 0 (.start false))
  have hentered : s.Lives 0 [installed 0, began 0 n, .called 0 n] true _ := hbegan.enter rfl rfl
  have hreplaced : s.Lives 0 [installed 0, began 0 n, .called 0 n, installed 1] true _ :=
    hentered.deed (.onStore 0 (.setHandler 0))
  have hclosed : s.Lives 0 [installed 0, began 0 n, .called 0 n, installed 1, closing,
      .returned 0 n, .finalized 0, .finalized 1] false _ := hreplaced.deed (.onStore 0 .close)
  exact ⟨_, n, hclosed, Lives.handlers_finalized hclosed⟩

end Scene

end SymbolIndex
