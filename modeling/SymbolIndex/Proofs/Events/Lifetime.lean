import SymbolIndex.Proofs.Events.HandlerStory
import SymbolIndex.Proofs.Events.InStep

/-!
# Lifetimes of handlers

A handler lives from the moment at which it is installed until it is finalized. A store finalizes
each of its handlers once: when it has been replaced, or when the store is closed, and not before
the delivery that was left to the background is done.
-/

namespace SymbolIndex

variable {s s' : Scene} {ref : StoreRef} {x x' : ArchiveStore} {t : Story} {next : HandlerRef}
  {entered : Bool}

open HandlerEvent (installed began called returned finalized closing)

/-! ### Calls as events -/

/-- A call for what happens to the handler. -/
def HandlerCall.events : HandlerCall → Story
  | deliver h n => [called h n, returned h n]
  | release h => [finalized h]

/-- What happens during calls that are made one after the other. -/
def HandlerCall.story (calls : List HandlerCall) : Story := calls.flatMap HandlerCall.events

/-- What happens during calls, the first of which may have been made already. -/
def HandlerCall.storyFrom (entered : Bool) (calls : List HandlerCall) : Story :=
  if entered then (story calls).tail else story calls

namespace ArchiveStore

/-- The delivery that a store has left to the background. -/
def delivery (x : ArchiveStore) (entered : Bool) : Delivery :=
  match x.pending with
  | none => .none
  | some (h, n) => if entered then .running h n else .due h n

/-- The story of the handlers of a store up to now. Those that live are the ones that the store
keeps. -/
structure Tells (x : ArchiveStore) (next : HandlerRef) (entered : Bool) (t : Story) : Prop where
  upto : t.Upto next x.handler (x.delivery entered)
  kept : ∀ h, t.Live h → x.Keeps h
  first : ∀ h n, x.pending = some (h, n) → n.isInitial = true
  entered : entered = true → ∃ p, x.pending = some p

theorem handler?_delivery (x : ArchiveStore) (entered : Bool) :
  (x.delivery entered).handler? = x.pending.map Prod.fst
  := by
  rw [delivery]
  split
  case h_1 hp => rw [hp]; rfl
  case h_2 h n hp => cases entered <;> simp [hp, Delivery.handler?]

end ArchiveStore

/-- The handler returns from the first notification. It may have been called for it before. -/
theorem Story.Upto.finish {current : Option HandlerRef} {h : HandlerRef} {n : NotificationView}
    (ht : t.Upto next current (if entered then .running h n else .due h n))
    (hn : n.isInitial = true) :
  Story.Upto (t ++ HandlerCall.storyFrom entered [.deliver h n]) next current .none
  := by
  cases entered with
  | true => exact Upto.leave ht hn
  | false =>
      have hleft := (Upto.enter ht hn).leave hn
      rwa [List.append_assoc] at hleft

namespace HandlerCall

/-- Only the first call may have been made already. -/
theorem storyFrom_deliver (h : HandlerRef) (n : NotificationView) (calls : List HandlerCall) :
  storyFrom entered (.deliver h n :: calls) = storyFrom entered [.deliver h n] ++ story calls
  := by
  cases entered <;> rfl

theorem quiet_storyFrom (h : HandlerRef) (n : NotificationView) :
  ∀ ev ∈ storyFrom entered [.deliver h n], ev.Quiet
  := by
  cases entered <;> simp [storyFrom, story, events, HandlerEvent.Quiet]

end HandlerCall

open HandlerCall (story storyFrom)

namespace ArchiveStore

/-! ### Operations on one store -/

theorem Tells.live_iff (ht : x.Tells next entered t) {h : HandlerRef} :
  t.Live h ↔ x.Keeps h
  := by
  constructor
  · exact ht.kept h
  · rintro (hk | ⟨n, hn⟩)
    · exact ht.upto.keeps h hk
    · apply ht.upto.delivers h
      simp [handler?_delivery, hn]

theorem Tells.live_append_iff (ht : x.Tells next entered t) {evs : List HandlerEvent}
    (hquiet : ∀ ev ∈ evs, ev.Quiet) {h : HandlerRef} :
  Story.Live (t ++ evs) h ↔ x.Keeps h
  := (Story.live_append hquiet h).trans ht.live_iff

/-- The units, and whether the store listens, do not matter. -/
theorem Tells.of_same (ht : x.Tells next entered t) (hhandler : x'.handler = x.handler)
    (hpending : x'.pending = x.pending) :
  x'.Tells next entered t
  := by
  have hdelivery : x'.delivery entered = x.delivery entered := by
    rw [delivery, hpending]
    rfl
  constructor
  · rw [hhandler, hdelivery]
    exact ht.upto
  · intro h hh
    rw [Keeps, hhandler, hpending]
    exact ht.kept h hh
  · rw [hpending]
    exact ht.first
  · rw [hpending]
    exact ht.entered

theorem Tells.mono (ht : x.Tells next entered t) {later : HandlerRef} (h : next ≤ later) :
  x.Tells later entered t
  := { ht with upto := ht.upto.mono h }

theorem Tells.entered_of_none (ht : x.Tells next entered t) (hp : x.pending = none) :
  entered = false
  := by
  rw [← Bool.not_eq_true]
  intro h
  obtain ⟨p, hp'⟩ := ht.entered h
  rw [hp] at hp'
  cases hp'

/-- What has been left to the background is delivered, and a handler that was kept for it alone is
finalized. -/
theorem Tells.deliverPending (ht : x.Tells next entered t) :
  x.deliverPending.2.Tells next false (t ++ storyFrom entered x.deliverPending.1)
  := by
  cases hp : x.pending with
  | none =>
      obtain rfl := ht.entered_of_none hp
      rw [deliverPending_of_none hp]
      simpa [storyFrom, story] using ht
  | some p =>
      obtain ⟨h, n⟩ := p
      have hupto := ht.upto
      simp only [delivery, hp] at hupto
      have hfinish := hupto.finish (ht.first h n hp)
      have hlive : ∀ g, Story.Live (t ++ storyFrom entered [.deliver h n]) g
          ↔ x.handler = some g ∨ h = g := by
        intro g
        rw [ht.live_append_iff (HandlerCall.quiet_storyFrom h n), Keeps, hp]
        simp
      have hcalls : x.deliverPending = (.deliver h n :: if x.handler = some h then [] else [.release h],
          { x with pending := none }) := by
        simp [ArchiveStore.deliverPending, hp]
      rw [hcalls, HandlerCall.storyFrom_deliver, ← List.append_assoc]
      by_cases hh : x.handler = some h
      · rw [if_pos hh]
        refine ⟨?_, ?_, by simp, by simp⟩
        · simpa [story, delivery] using hfinish
        · intro g hg
          left
          rcases (hlive g).mp (by simpa [story] using hg) with hk | rfl
          · exact hk
          · exact hh
      · rw [if_neg hh]
        have hfinal := hfinish.finalize ((hlive h).mpr (.inr rfl)) hh (by simp [Delivery.handler?])
        refine ⟨hfinal, ?_, by simp, by simp⟩
        intro g hg
        obtain ⟨hg, hne⟩ := Story.live_finalize.mp hg
        exact .inl (((hlive g).mp hg).resolve_right (Ne.symm hne))

/-- The handler is told of something other than the units that were there. -/
theorem Tells.deliver (ht : x.Tells next entered t) {n : NotificationView}
    (hn : n.isInitial = false) :
  x.Tells next entered (t ++ story (x.deliver n))
  := by
  cases hh : x.handler with
  | none => simpa [ArchiveStore.deliver, hh, story] using ht
  | some h =>
      have hcalls : story (x.deliver n) = [called h n, returned h n] := by
        simp [ArchiveStore.deliver, hh, story, HandlerCall.events]
      rw [hcalls]
      refine { ht with upto := ht.upto.tell hh hn, kept := fun g hg => ht.kept g ?_ }
      rw [Story.live_append] at hg
      · exact hg
      · simp [HandlerEvent.Quiet]

theorem Tells.discard (ht : x.Tells next entered t) (unit : String) :
  (x.discard unit).2.Tells next entered (t ++ story (x.discard unit).1)
  := by
  rw [ArchiveStore.discard]
  split
  · split
    · exact (ht.deliver rfl).of_same rfl rfl
    · exact (show x.Tells next entered (t ++ []) by rwa [List.append_nil]).of_same rfl rfl
  · rwa [story, List.flatMap_nil, List.append_nil]

/-- Who is to be told of all units, and what, when listening begins. -/
def first? (x : ArchiveStore) : Option (HandlerRef × NotificationView) :=
  x.handler.map fun h => (h, notification true .added x.contents.unitNames)

/-- That a first notification is to be delivered. -/
def beginning (x : ArchiveStore) : Story := x.first?.toList.map fun p => began p.1 p.2

/-- Listening begins. The first notification is delivered at once or left to the background. -/
theorem Tells.listen (ht : x.Tells next entered t) (hp : x.pending = none) (wait : Bool) :
  (x.listen wait).2.Tells next entered (t ++ (x.beginning ++ story (x.listen wait).1))
  := by
  obtain rfl := ht.entered_of_none hp
  have hupto := ht.upto
  rw [delivery, hp] at hupto
  cases hh : x.handler with
  | none =>
      have hnothing : x.beginning ++ story (x.listen wait).1 = [] := by
        cases wait <;> simp [beginning, first?, ArchiveStore.listen, ArchiveStore.deliver, hh, story]
      have hpending : (x.listen wait).2.pending = x.pending := by
        cases wait <;> simp [ArchiveStore.listen, hh, hp]
      rw [hnothing, List.append_nil]
      exact ht.of_same rfl hpending
  | some h =>
      let n : NotificationView := notification true .added x.contents.unitNames
      have hbeginning : x.beginning = [began h n] := by simp [beginning, first?, hh, n]
      have hbegun := hupto.begin hh n
      have hkept : ∀ evs : List HandlerEvent, (∀ ev ∈ evs, ev.Quiet) → ∀ g,
          Story.Live (t ++ evs) g → x.handler = some g := by
        intro evs hquiet g hg
        simpa [Keeps, hp] using (ht.live_append_iff hquiet).mp hg
      cases wait with
      | true =>
          have hstory : x.beginning ++ story (x.listen true).1
              = [began h n] ++ [called h n] ++ [returned h n] := by
            rw [hbeginning]
            simp [ArchiveStore.listen, ArchiveStore.deliver, hh, story, HandlerCall.events, n]
          rw [hstory, ← List.append_assoc, ← List.append_assoc]
          refine ⟨(hbegun.enter rfl).leave rfl, fun g hg => .inl ?_, by simp [ArchiveStore.listen],
            by simp⟩
          rw [List.append_assoc, List.append_assoc] at hg
          apply hkept _ _ g hg
          simp [HandlerEvent.Quiet]
      | false =>
          have hstory : x.beginning ++ story (x.listen false).1 = [began h n] := by
            rw [hbeginning]
            rfl
          have hpending : (x.listen false).2.pending = some (h, n) := by
            simp [ArchiveStore.listen, hh, n]
          rw [hstory]
          refine ⟨?_, fun g hg => .inl ?_, ?_, by simp⟩
          · rw [delivery, hpending]
            exact hbegun
          · apply hkept _ _ g hg
            simp [HandlerEvent.Quiet]
          · intro g m hm
            rw [hpending] at hm
            obtain ⟨-, rfl⟩ := Prod.mk.inj (Option.some.inj hm)
            rfl

/-- The handler of a store is let go of unless something is left to deliver to it. -/
theorem releaseHandler_cases (x : ArchiveStore) :
  (x.releaseHandler = [] ∧ ∀ h, x.handler = some h → ∃ n, x.pending = some (h, n))
    ∨ ∃ h, x.releaseHandler = [.release h] ∧ x.handler = some h ∧ ∀ n, x.pending ≠ some (h, n)
  := by
  cases hh : x.handler with
  | none => exact .inl ⟨by simp [releaseHandler, hh], nofun⟩
  | some h =>
      by_cases hp : ∃ n, x.pending = some (h, n)
      · obtain ⟨n, hn⟩ := hp
        left
        refine ⟨by simp [releaseHandler, hh, hn], ?_⟩
        intro g hg
        obtain rfl := Option.some.inj hg
        exact ⟨n, hn⟩
      · right
        have hother : x.pending.any (fun p => p.1 == h) = false := by
          cases hq : x.pending with
          | none => rfl
          | some p =>
              have hne : p.1 ≠ h := by
                rintro rfl
                exact hp ⟨p.2, hq⟩
              simpa using hne
        refine ⟨h, ?_, rfl, fun n hn => hp ⟨n, hn⟩⟩
        simp only [releaseHandler, hh, hother]
        rfl

/-- A new handler is installed. -/
theorem Tells.setHandler (ht : x.Tells next entered t) :
  ArchiveStore.Tells { x with handler := some next } (next + 1) entered
    (t ++ (installed next :: story x.releaseHandler))
  := by
  have hinstall := ht.upto.install
  have hlive : ∀ h, Story.Live (t ++ [installed next]) h →
      h = next ∨ x.handler = some h ∨ ∃ n, x.pending = some (h, n) := by
    intro h hh
    rcases ht.upto.live_install.mp hh with hh | rfl
    · exact .inr (ht.kept h hh)
    · exact .inl rfl
  rw [List.append_cons]
  rcases x.releaseHandler_cases with ⟨hnone, hpending⟩ | ⟨g, hg, hhandler, hpending⟩
  · rw [hnone, story, List.flatMap_nil, List.append_nil]
    refine { ht with upto := hinstall, kept := fun h hh => ?_ }
    rcases hlive h hh with rfl | hk | hk
    · exact .inl rfl
    · exact .inr (hpending h hk)
    · exact .inr hk
  · have hcurrent : some next ≠ some g := by
      intro h
      obtain rfl := Option.some.inj h
      exact Nat.lt_irrefl _ (ht.upto.made _ (ht.upto.keeps _ hhandler).1)
    have hdelivery : (x.delivery entered).handler? ≠ some g := by
      rw [handler?_delivery]
      intro h
      obtain ⟨⟨g', n⟩, hp, rfl⟩ := Option.map_eq_some_iff.mp h
      exact hpending n hp
    have hold : Story.Live (t ++ [installed next]) g :=
      ht.upto.live_install.mpr (.inl (ht.upto.keeps g hhandler))
    rw [hg]
    refine { ht with upto := hinstall.finalize hold hcurrent hdelivery, kept := fun h hh => ?_ }
    obtain ⟨hh, hne⟩ := Story.live_finalize.mp hh
    rcases hlive h hh with rfl | hk | hk
    · exact .inl rfl
    · exact absurd (Option.some.inj (hk.symm.trans hhandler)) hne
    · exact .inr hk

/-- A store that has nothing left to deliver is closed. -/
theorem close_of_none (hp : x.pending = none) :
  x.close = x.handler.toList.map .release
  := by
  have hstopped : x.stopListening = ([], { x with listening := false }) := deliverPending_of_none hp
  rw [ArchiveStore.close, hstopped]
  cases x.handler <;> simp [releaseHandler, hp]

/-- The handlers that are let go of when something was left to deliver to one of them. -/
def keepers (x : ArchiveStore) (h : HandlerRef) : List HandlerRef :=
  if x.handler = some h then [h] else h :: x.handler.toList

theorem mem_keepers {h g : HandlerRef} {n : NotificationView} (hp : x.pending = some (h, n)) :
  g ∈ x.keepers h ↔ x.Keeps g
  := by
  have hpending : (∃ m, x.pending = some (g, m)) ↔ g = h := by simp [hp, eq_comm]
  rw [Keeps, hpending, keepers]
  split
  case isTrue hh =>
      rw [List.mem_singleton, hh, Option.some.injEq]
      constructor
      · exact .inr
      · rintro (rfl | rfl) <;> rfl
  case isFalse => rw [List.mem_cons, Option.mem_toList, or_comm]

theorem close_of_some {h : HandlerRef} {n : NotificationView} (hp : x.pending = some (h, n)) :
  x.close = .deliver h n :: (x.keepers h).map .release
  := by
  have hstopped : x.stopListening
      = (.deliver h n :: if x.handler = some h then [] else [.release h],
          { x with listening := false, pending := none }) := by
    simp [stopListening, ArchiveStore.deliverPending, hp]
  rw [ArchiveStore.close, hstopped, keepers]
  by_cases hh : x.handler = some h
  · simp [releaseHandler, hh]
  · cases hg : x.handler with
    | none => simp [releaseHandler]
    | some g =>
        rw [hg] at hh
        simp [releaseHandler, hh]

theorem story_release (handlers : List HandlerRef) :
  story (handlers.map .release) = handlers.map finalized
  := by
  rw [story, List.flatMap_map]
  exact List.flatMap_pure_eq_map finalized handlers

/-- All handlers are finalized when the store is closed. -/
theorem Tells.close (ht : x.Tells next entered t) :
  let t' := t ++ [closing] ++ storyFrom entered x.close
  Story.Upto t' next none .none ∧ ∀ h, ¬ Story.Live t' h
  := by
  have hclosing := ht.upto.close
  have hquiet : ∀ ev ∈ [closing], ev.Quiet := by simp [HandlerEvent.Quiet]
  cases hp : x.pending with
  | none =>
      obtain rfl := ht.entered_of_none hp
      have hkept : ∀ h, Story.Live (t ++ [closing]) h ↔ h ∈ x.handler.toList := by
        intro h
        rw [ht.live_append_iff hquiet, Option.mem_toList]
        simp [Keeps, hp]
      rw [delivery, hp] at hclosing
      obtain ⟨hupto, hleft⟩ := hclosing.finalizeAll x.handler.toList
        (by cases x.handler <;> simp) (fun h hh => ⟨(hkept h).mpr hh, by simp⟩)
      rw [close_of_none hp, storyFrom, if_neg Bool.false_ne_true, story_release]
      refine ⟨hupto, fun h hh => ?_⟩
      obtain ⟨hlive, hnot⟩ := hleft h hh
      exact hnot ((hkept h).mp hlive)
  | some p =>
      obtain ⟨h, n⟩ := p
      simp only [delivery, hp] at hclosing
      have hfinish := hclosing.finish (ht.first h n hp)
      have hkept : ∀ g, Story.Live (t ++ [closing] ++ storyFrom entered [.deliver h n]) g
          ↔ g ∈ x.keepers h := by
        intro g
        rw [Story.live_append (HandlerCall.quiet_storyFrom h n), ht.live_append_iff hquiet,
          mem_keepers hp]
      have hdistinct : (x.keepers h).Nodup := by
        rw [keepers]
        split
        · simp
        · cases hg : x.handler <;> simp_all [eq_comm]
      obtain ⟨hupto, hleft⟩ := hfinish.finalizeAll (x.keepers h) hdistinct
        (fun g hg => ⟨(hkept g).mpr hg, by simp⟩)
      rw [close_of_some hp, HandlerCall.storyFrom_deliver, story_release, ← List.append_assoc]
      refine ⟨hupto, fun g hg => ?_⟩
      obtain ⟨hlive, hnot⟩ := hleft g hg
      exact hnot ((hkept g).mp hlive)

end ArchiveStore

end SymbolIndex
