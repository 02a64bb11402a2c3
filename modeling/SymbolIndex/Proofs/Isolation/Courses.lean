import SymbolIndex.Proofs.Events.Watching
import SymbolIndex.Proofs.Isolation.Handles

/-!
# What becomes of an open store

An operation on a store makes of it what can be said of the store by itself, and every other call
leaves it as it is. So what becomes of a store that is opened depends on the operations on this
store alone, whatever else is done in between.
-/

namespace SymbolIndex

variable {s : Scene} {ref : StoreRef} {e : EventStore Archive} {x : ArchiveStore}

/-! ### What an operation leaves of its store -/

theorem StoreContents.after_of_not_writes (c : StoreContents) {deed : StoreDeed}
    (h : deed.writes = false) :
  c.after deed = c
  := by
  cases deed with
  | discardUnit _ | discardRecord _ | purge => cases h
  | _ => rfl

namespace StoreDeed

variable {handedOut : Nat} (honest : e.store.library.Honest) (hs : s.2.Sound handedOut)
  (hx : s.2.stores.get? e.store.ref = some x)

include honest hs hx

/-- The contents are changed as can be said of them alone. -/
theorem act_contents {deed : StoreDeed} {x' : ArchiveStore}
    (hx' : (deed.act e s).2.2.stores.get? e.store.ref = some x') :
  x'.path = x.path ∧ x'.mappings = x.mappings ∧ x'.contents = x.contents.after deed
  := by
  cases hwrites : deed.writes with
  | false =>
      have hmade := hs.storeTable.fresh _ (Table.get?_mem hx)
      obtain ⟨x₀, hx₀, hsame⟩ := (act_retains honest hwrites s).stores _ _ hmade hx'
      obtain rfl := Option.some.inj (hx.symm.trans hx₀)
      rw [x.contents.after_of_not_writes hwrites]
      exact ⟨hsame.path, hsame.mappings, hsame.contents⟩
  | true =>
      rw [archive_act_of_writes honest hwrites hx] at hx'
      split at hx'
      case isTrue =>
          have hwith := Archive.with_changeContents hx (fun c => c.after deed) e.store.ref
          rw [if_pos rfl] at hwith
          obtain rfl := Option.some.inj (hwith.symm.trans hx')
          exact ⟨rfl, rfl, rfl⟩
      case isFalse hpersists =>
          obtain rfl := Option.some.inj (hx.symm.trans hx')
          rw [StoreContents.after_of_not_persists (by simpa using hpersists) hwrites]
          exact ⟨rfl, rfl, rfl⟩

/-- The store that an operation leaves, unless it closes the store. The other stores stay as they
are. -/
theorem act_leaves {deed : StoreDeed} (hclose : deed ≠ .close) :
  let t := deed.turn (deed.act e s).1
  Archive.With e.store.ref
    { x with
      contents := x.contents.after deed
      handler := if deed.installs e then some s.1.desk.handlers.next else x.handler
      listening := (x.turn t).2.listening
      pending := (x.turn t).2.pending }
    s.2 (deed.act e s).2.2
  := by
  obtain ⟨x', halike, hwith⟩ := act_with honest hx hclose
  have hx' := hwith e.store.ref
  rw [if_pos rfl] at hx'
  obtain ⟨hpath, hmappings, hcontents⟩ := act_contents honest hs hx hx'
  have hhandler := halike.handler
  have hlistening := halike.listening
  have hpending := halike.pending
  obtain ⟨path, mappings, contents, handler, listening, pending⟩ := x'
  obtain rfl := hpath
  obtain rfl := hmappings
  obtain rfl := hcontents
  obtain rfl := hhandler
  obtain rfl := hlistening
  obtain rfl := hpending
  exact hwith

end StoreDeed

namespace Handle.Describes

variable {h : Handle} {names : List HandlerRef} {handedOut : Nat}

theorem turned (hd : h.Describes names e x) (t : Turn) :
  (h.turned t).Describes names e
    { x with listening := (x.turn t).2.listening, pending := (x.turn t).2.pending }
  := by
  cases t with
  | rest => exact hd
  | discarded unit =>
      rw [ArchiveStore.turn, ArchiveStore.discard]
      split <;> exact hd
  | began wait =>
      cases wait with
      | true => exact { hd with listening := rfl, pending := rfl }
      | false =>
          have hpending := congrArg (Option.map fun i => (i, h.first)) hd.handler
          refine { hd with listening := rfl, pending := ?_ }
          simpa [ArchiveStore.turn, ArchiveStore.listen, Handle.turned, first, hd.contents,
            Function.comp_def] using hpending
  | stopped =>
      simp only [ArchiveStore.turn, ArchiveStore.stopListening, ArchiveStore.deliverPending_snd]
      exact { hd with listening := rfl, pending := rfl }
  | caughtUp =>
      simp only [ArchiveStore.turn, ArchiveStore.deliverPending_snd]
      exact { hd with pending := rfl }

/-- The handlers that there have been keep their numbers when one more is named. -/
theorem installed (hd : h.Describes names e x) (name : HandlerRef) (feed : Option Nat) :
  (h.install feed.isSome).Describes (names ++ [name]) { e with feed }
    { x with handler := some name }
  := by
  have hlast : (names ++ [name])[h.given]? = some name := by
    rw [← hd.given, List.getElem?_concat_length]
  have hmore : ∀ {i : Nat} {g}, names[i]? = some g → (names ++ [name])[i]? = some g := by
    intro i g hi
    obtain ⟨hlt, -⟩ := List.getElem?_eq_some_iff.mp hi
    rw [List.getElem?_append_left hlt, hi]
  refine { hd with given := ?_, handler := ?_, fed := rfl, pending := ?_ }
  · rw [List.length_append, hd.given]
    rfl
  · rw [install, Option.map_some, Option.map_some, hlast]
  · have hpending := hd.pending
    rw [install]
    rcases hx : x.pending with _ | ⟨g, n⟩ <;> rcases hh : h.pending with _ | ⟨i, n'⟩
    · rfl
    · rw [hx, hh] at hpending
      cases hpending
    · rw [hx, hh] at hpending
      cases hpending
    · rw [hx, hh] at hpending
      obtain ⟨hg, hn⟩ := Prod.mk.inj (Option.some.inj hpending)
      exact congrArg some (Prod.ext (hmore hg.symm).symm hn)

end Handle.Describes

/-! ### What is held then -/

/-- What is found under a reference when another one has been taken out. -/
theorem find?_without {α : Type} (ref? : α → Nat) (l : List α) (ref r : Nat) :
  (l.filter fun a => ref? a != ref).find? (fun a => ref? a == r)
    = if r = ref then none else l.find? fun a => ref? a == r
  := by
  rw [List.find?_filter]
  split
  case isTrue href =>
      rw [List.find?_eq_none]
      intro a _
      simp [href]
  case isFalse href =>
      congr 1
      funext a
      by_cases ha : ref? a = r <;> simp [ha, href]

theorem Holdings.store?_without (h : Holdings) (ref r : StoreRef) :
  { h with stores := h.stores.filter fun e => e.store.ref != ref }.store? r
    = if r = ref then none else h.store? r
  := find?_without (fun e : EventStore Archive => e.store.ref) h.stores ref r

theorem StoreDeed.stores_of_turns (honest : e.store.library.Honest)
    (hx : s.2.stores.get? e.store.ref = some x) {deed : StoreDeed} (h : deed.turns = true) :
  (deed.act e s).2.1.stores = s.1.stores
  := by
  obtain ⟨⟨_, -, hserves⟩, -⟩ := act_serves honest hx h
  exact hserves.stores

/-- An operation on one store leaves the other stores as they are. -/
theorem StoreDeed.act_others (honest : e.store.library.Honest)
    (hx : s.2.stores.get? e.store.ref = some x) (deed : StoreDeed) (hr : ref ≠ e.store.ref) :
  (deed.act e s).2.1.store? ref = s.1.store? ref
    ∧ (deed.act e s).2.2.stores.get? ref = s.2.stores.get? ref
  := by
  have harchive : deed ≠ .close → (deed.act e s).2.2.stores.get? ref = s.2.stores.get? ref := by
    intro hclose
    obtain ⟨_, -, hwith⟩ := act_with honest hx hclose
    rw [hwith, if_neg hr]
  by_cases hturns : deed.turns = true
  · refine ⟨?_, harchive (fun hclose => by subst hclose; cases hturns)⟩
    rw [Holdings.store?, stores_of_turns honest hx hturns]
    rfl
  · cases deed with
    | setHandler journal =>
        refine ⟨(Holdings.store?_replaced _ _ ref).trans (if_neg hr), harchive ?_⟩
        intro hclose
        cases hclose
    | subscribe =>
        constructor
        · rw [act_subscribe]
          exact (Holdings.store?_replaced _ _ ref).trans (if_neg hr)
        · apply harchive
          intro hclose
          cases hclose
    | close =>
        constructor
        · exact (Holdings.store?_without _ e.store.ref ref).trans (if_neg hr)
        · rw [(close_eq honest hx).2, Table.get?_erase, if_neg hr]
    | _ => exact absurd rfl hturns

theorem StoreDeed.next_stores_act (honest : e.store.library.Honest)
    (hx : s.2.stores.get? e.store.ref = some x) (deed : StoreDeed) :
  s.2.stores.next ≤ (deed.act e s).2.2.stores.next
  := by
  cases hwrites : deed.writes with
  | false => exact (act_retains honest hwrites s).next
  | true =>
      rw [archive_act_of_writes honest hwrites hx]
      split
      · simp only [Archive.changeContents, hx, Archive.persist, Table.next_modify, Nat.le_refl]
      · exact Nat.le_refl _

namespace Handle.Describes

variable {h : Handle} {names : List HandlerRef} {handedOut : Nat}

/-- What is left by an operation that does not close the store. -/
theorem act (hd : h.Describes names e x) (honest : e.store.library.Honest)
    (hs : s.2.Sound handedOut) (he : s.1.store? e.store.ref = some e)
    (hx : s.2.stores.get? e.store.ref = some x) {deed : StoreDeed} (hclose : deed ≠ .close) :
  ∃ h' e' x', h.after deed = some h'
    ∧ (deed.act e s).2.1.store? e.store.ref = some e'
    ∧ (deed.act e s).2.2.stores.get? e.store.ref = some x'
    ∧ h'.Describes (names ++ if deed.installs e then [s.1.desk.handlers.next] else []) e' x'
  := by
  have hleaves := deed.act_leaves honest hs hx hclose e.store.ref
  rw [if_pos rfl] at hleaves
  by_cases hturns : deed.turns = true
  · have hinstalls : deed.installs e = false := by
      cases deed with
      | setHandler _ | subscribe => cases hturns
      | _ => rfl
    have hafter : h.after deed
        = some { h.turned (h.turn deed) with contents := h.contents.after deed } := by
      cases deed with
      | setHandler _ | subscribe | close => cases hturns
      | _ => rfl
    have hheld : (deed.act e s).2.1.store? e.store.ref = some e := by
      rw [Holdings.store?, StoreDeed.stores_of_turns honest hx hturns]
      exact he
    have hturned := hd.turned (h.turn deed)
    rw [hd.turn_eq honest hs hx, hinstalls] at hleaves
    rw [hinstalls, if_neg Bool.false_ne_true, List.append_nil]
    refine ⟨_, e, _, hafter, hheld, hleaves, ?_⟩
    exact { hturned with contents := congrArg (·.after deed) hd.contents }
  · cases deed with
    | setHandler journal =>
        have hinstalled := hd.installed s.1.desk.handlers.next none
        exact ⟨_, _, _, rfl, Holdings.store?_update he rfl, hleaves, hinstalled⟩
    | subscribe =>
        let f := (e.ownFeed (s.1.desk, s.2)).1
        have hheld : (StoreDeed.subscribe.act e s).2.1.store? e.store.ref
            = some { e with feed := some f } := by
          rw [StoreDeed.act_subscribe]
          exact Holdings.store?_update he rfl
        cases hfed : h.fed with
        | false =>
            have hinstalls : StoreDeed.subscribe.installs e = true := by
              rw [StoreDeed.installs, ← Option.not_isSome, hd.fed, hfed]
              rfl
            have hafter : h.after .subscribe = some (h.install true) := by
              rw [after, hfed, if_neg Bool.false_ne_true]
            rw [hinstalls, if_pos rfl] at hleaves ⊢
            exact ⟨_, _, _, hafter, hheld, hleaves, hd.installed _ (some f)⟩
        | true =>
            have hinstalls : StoreDeed.subscribe.installs e = false := by
              rw [StoreDeed.installs, ← Option.not_isSome, hd.fed, hfed]
              rfl
            have hafter : h.after .subscribe = some h := by
              rw [after, hfed, if_pos rfl]
            have hkept : h.Describes names { e with feed := some f } x :=
              { hd with fed := hfed.symm }
            rw [hinstalls, if_neg Bool.false_ne_true] at hleaves ⊢
            rw [List.append_nil]
            exact ⟨_, _, _, hafter, hheld, hleaves, hkept⟩
    | close => exact absurd rfl hclose
    | _ => exact absurd rfl hturns

end Handle.Describes

/-! ### In the course of calls -/

/-- What is done with a store in a call. -/
def Call.on? (ref : StoreRef) : Call → Option StoreDeed
  | deed (.onStore store d) => if store = ref then some d else none
  | _ => none

theorem Call.of_on? {c : Call} {d : StoreDeed} (h : c.on? ref = some d) :
  c = .deed (.onStore ref d)
  := by
  cases c with
  | deed deed =>
      cases deed with
      | onStore store d' =>
          rw [on?] at h
          split at h
          case isTrue href =>
              obtain rfl := Option.some.inj h
              rw [href]
          case isFalse => cases h
      | _ => cases h
  | handOut _ | search _ => cases h

/-- The handler that a store is given in a call. -/
def Call.names (ref : StoreRef) (s : Scene) (c : Call) : List HandlerRef :=
  match c.on? ref, s.1.store? ref with
  | some d, some e => if d.installs e then [s.1.desk.handlers.next] else []
  | _, _ => []

namespace Scene

/-- A store stays as it is. -/
structure KeepsStore (s : Scene) (ref : StoreRef) (s' : Scene) : Prop where
  next : s.2.stores.next ≤ s'.2.stores.next
  held : s'.1.store? ref = s.1.store? ref
  opened : ∀ x, s.2.stores.get? ref = some x → s'.2.stores.get? ref = some x

theorem Still.keepsStore {s' : Scene} (h : Still s s') (ref : StoreRef) :
  s.KeepsStore ref s'
  := by
  have hstores : s'.2.stores = s.2.stores := h.archive
  constructor
  · rw [hstores]
  · rw [Holdings.store?, h.stores]
    rfl
  · rw [hstores]
    exact fun _ hx => hx

/-- To open another store makes no difference. -/
theorem Opens.keepsStore {s' : Scene} (h : Opens s e x s') (hlt : ref < s.2.stores.next) :
  s.KeepsStore ref s'
  := by
  have hne : (e.store.ref == ref) = false := by
    rw [h.ref]
    simpa using Nat.ne_of_gt hlt
  constructor
  · rw [h.archive]
    exact Nat.le_succ _
  · rw [Holdings.store?, h.stores, List.find?_append, List.find?_singleton, hne]
    exact Option.or_none
  · rw [h.archive]
    exact fun _ hx => Table.get?_insert_of_some hx x

end Scene

/-- A call that is not on a store leaves it as it is. -/
theorem Call.keepsStore (hs : s.Sound) {c : Call} (hlt : ref < s.2.stores.next)
    (hon : c.on? ref = none) :
  s.KeepsStore ref (c.run s)
  := by
  rcases c.deed_or_aside hs with ⟨deed, rfl⟩ | haside
  · rw [run]
    have hdoes := deed.run_does hs
    generalize (deed.run s).2 = s' at hdoes ⊢
    cases hdoes with
    | still hstill => exact hstill.keepsStore ref
    | onDesk deed => exact ⟨Nat.le_refl _, rfl, fun _ => id⟩
    | opens hopens => exact hopens.keepsStore hlt
    | @onStore e x deed u he honest hx hreads =>
        have hne : ref ≠ e.store.ref := by
          rintro rfl
          rw [on?, if_pos rfl] at hon
          cases hon
        obtain ⟨hheld, hopen⟩ := deed.act_others (s := (s.1.note u, s.2)) honest hx hne
        refine ⟨deed.next_stores_act (s := (s.1.note u, s.2)) honest hx, hheld, fun x hx => ?_⟩
        rw [hopen, hx]
  · exact haside.still.keepsStore ref

namespace Scene

/-- What is done with a store in some calls, first one first. -/
def doneWith (ref : StoreRef) (calls : List Call) : List StoreDeed := calls.filterMap (Call.on? ref)

/-- The handlers that a store is given in calls, first one first. -/
def names (ref : StoreRef) : List Call → Scene → List HandlerRef
  | [], _ => []
  | c :: calls, s => c.names ref s ++ names ref calls (c.run s)

/-- The handle is that of a store that is held. Of a store that has been closed there is none. -/
def Bears (s : Scene) (ref : StoreRef) (names : List HandlerRef) : Option Handle → Prop
  | none => ref < s.2.stores.next ∧ s.1.store? ref = none
  | some h => ∃ e x, s.1.store? ref = some e ∧ s.2.stores.get? ref = some x ∧ h.Describes names e x

variable {names : List HandlerRef} {handle : Option Handle}

theorem Bears.kept {s' : Scene} (h : s.Bears ref names handle) (hkeeps : s.KeepsStore ref s') :
  s'.Bears ref names handle
  := by
  cases handle with
  | none => exact ⟨Nat.lt_of_lt_of_le h.1 hkeeps.next, hkeeps.held.trans h.2⟩
  | some handle =>
      obtain ⟨e, x, he, hx, hd⟩ := h
      exact ⟨e, x, hkeeps.held.trans he, hkeeps.opened x hx, hd⟩

theorem Bears.lt (h : s.Bears ref names handle) (hs : s.Sound) :
  ref < s.2.stores.next
  := by
  cases handle with
  | none => exact h.1
  | some handle =>
      obtain ⟨e, -, he, -⟩ := h
      obtain ⟨rfl, hmem, -⟩ := hs.store_held he
      exact hs.store_lt hmem

/-- An operation on the store makes of it what can be said of it by itself. -/
theorem Bears.act {u : Use} (h : s.Bears e.store.ref names handle) (hs : s.Sound)
    (he : s.1.store? e.store.ref = some e) (honest : e.store.library.Honest)
    (hx : s.2.stores.get? e.store.ref = some x) (deed : StoreDeed) :
  Bears (deed.act e (s.1.note u, s.2)).2 e.store.ref
    (names ++ if deed.installs e then [s.1.desk.handlers.next] else [])
    (handle.bind fun h => h.after deed)
  := by
  cases handle with
  | none =>
      rw [h.2] at he
      cases he
  | some handle =>
      obtain ⟨e₀, x₀, he₀, hx₀, hd⟩ := h
      obtain rfl := Option.some.inj (he.symm.trans he₀)
      obtain rfl := Option.some.inj (hx.symm.trans hx₀)
      by_cases hclose : deed = .close
      · subst hclose
        constructor
        · rw [(StoreDeed.close_eq (s := (s.1.note u, s.2)) honest hx).2, Table.next_erase]
          exact hs.archive.storeTable.fresh _ (Table.get?_mem hx)
        · exact (Holdings.store?_without _ _ _).trans (if_pos rfl)
      · obtain ⟨handle', e', x', hafter, he', hx', hd'⟩ :=
          hd.act (s := (s.1.note u, s.2)) honest hs.archive he hx hclose
        rw [Option.bind_some, hafter]
        exact ⟨e', x', he', hx', hd'⟩

/-- A call makes of a store what can be said of the store by itself. -/
theorem Bears.call (h : s.Bears ref names handle) (hs : s.Sound) (c : Call) :
  (c.run s).Bears ref (names ++ c.names ref s) (Handle.afterAll handle (c.on? ref).toList)
  := by
  cases hon : c.on? ref with
  | none =>
      rw [Call.names, hon, List.append_nil]
      exact h.kept (c.keepsStore hs (h.lt hs) hon)
  | some deed =>
      obtain rfl := Call.of_on? hon
      rw [Call.run, Call.names, hon]
      cases he : s.1.store? ref with
      | none =>
          rw [Deed.run_onStore_of_none he, List.append_nil]
          cases handle with
          | none => exact h
          | some handle =>
              obtain ⟨e, -, he', -⟩ := h
              cases he.symm.trans he'
      | some e =>
          obtain ⟨rfl, -, honest, x, hx⟩ := hs.store_held he
          rw [Deed.run_onStore he]
          exact h.act hs he honest hx deed

/-- What becomes of a store in some calls depends on what is done with this store alone. -/
theorem Bears.called (h : s.Bears ref names handle) (hs : s.Sound) (calls : List Call) :
  (s.called calls).Bears ref (names ++ Scene.names ref calls s)
    (Handle.afterAll handle (doneWith ref calls))
  := by
  induction calls generalizing s names handle with
  | nil =>
      rw [Scene.names, List.append_nil]
      exact h
  | cons c calls ih =>
      have hrest := ih (h.call hs c) (c.run_sound hs)
      have hdone : doneWith ref (c :: calls) = (c.on? ref).toList ++ doneWith ref calls := by
        rw [doneWith, doneWith, List.filterMap_cons]
        cases c.on? ref <;> rfl
      rw [hdone, Handle.afterAll, List.foldl_append, Scene.names, ← List.append_assoc]
      exact hrest

end Scene

end SymbolIndex
