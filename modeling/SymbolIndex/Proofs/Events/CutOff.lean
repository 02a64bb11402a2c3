import SymbolIndex.Proofs.Events.Supply

/-!
# Receivers and handlers that are cut off

When a store is given another handler or is closed, it lets go of the feed of its subscribers.
Nothing sends to the feed any more then, and nothing ever will. What a receiver still holds can be
taken, and after that the receiver is disconnected. A handler of which the desk has let go is never
called again.
-/

namespace SymbolIndex

variable {s s' : Scene} {ref : StoreRef} {x : ArchiveStore} {r : Receiver} {w : Watcher}

open HandlerCall (batches)

/-! ### Receivers that are cut off -/

/-- No handler sends to the feed any more, and no store keeps it. -/
structure Desk.Detached (d : Desk) (f : Nat) : Prop where
  unheard : ∀ h, d.handlers.get? h ≠ some (.feed f)
  made : f < d.feeds.next
  letGo : ∃ k, d.feeds.get? f = some k ∧ k.kept = false

namespace Desk.Detached

variable {d d' : Desk} {f : Nat}

/-- No store takes up a feed of which one has let go. -/
theorem kept_of_grows (hgrows : d.Grows d') (h : ∃ k, d.feeds.get? f = some k ∧ k.kept = false) :
  ∃ k, d'.feeds.get? f = some k ∧ k.kept = false
  := by
  obtain ⟨k, hk, hkept⟩ := h
  obtain ⟨k', hk', -, hstays⟩ := hgrows.feeds f k hk
  refine ⟨k', hk', Bool.eq_false_iff.mpr ?_⟩
  intro hkept'
  rw [hstays hkept'] at hkept
  cases hkept

/-- A feed that is detached stays so, whatever happens. -/
theorem grows (h : d.Detached f) (hgrows : d.Grows d') :
  d'.Detached f
  := by
  refine ⟨?_, Nat.lt_of_lt_of_le h.made hgrows.nextFeed, kept_of_grows hgrows h.letGo⟩
  intro g hg
  rcases hgrows.handlers g _ hg with hold | ⟨-, hnew⟩
  · exact h.unheard g hold
  · exact Nat.not_lt.mpr (hnew f rfl) h.made

/-- The receiver of a feed that is detached is disconnected. -/
theorem disconnected (h : d.Detached r.feed) (hd : d.Sound) :
  d.connected r = false
  := by
  obtain ⟨k, hk, hkept⟩ := h.letGo
  have hvalues : Sink.feed r.feed ∉ d.handlers.values := by
    intro hmem
    obtain ⟨entry, hentry, hsink⟩ := List.mem_map.mp hmem
    exact h.unheard entry.1 ((hd.handlers.get?_of_mem hentry).trans (congrArg some hsink))
  simp [connected, hk, hkept, hvalues]

end Desk.Detached

namespace Watcher

variable {d : Desk}

/-- Nothing gathers where no handler sends. -/
theorem waiting_process_of_unheard (hw : w.Stands d)
    (hunheard : ∀ h, d.handlers.get? h ≠ some w.sink) (calls : List HandlerCall) :
  w.waiting (d.process calls) = w.waiting d
  := by
  induction calls generalizing d with
  | nil => rfl
  | cons c calls ih =>
      have hfirst : w.waiting (d.call c) = w.waiting d := by
        rw [waiting_call hw]
        cases c with
        | deliver h n => rw [heard, if_neg (hunheard h), List.append_nil]
        | release h => exact List.append_nil _
      exact (ih (hw.call c) fun h hh => hunheard h (Desk.found_call hh)).trans hfirst

theorem Stands.readied (hw : w.Stands d) (e : EventStore Archive) (deed : StoreDeed) :
  w.Stands (deed.readied e d) ∧ w.waiting (deed.readied e d) = w.waiting d
  := by
  have hhandler : ∀ d' : Desk, w.Stands d' → ∀ sink,
      w.Stands (d'.handler sink).2 ∧ w.waiting (d'.handler sink).2 = w.waiting d' := by
    intro d' hw' sink
    cases w <;> exact ⟨hw', rfl⟩
  cases deed with
  | setHandler journal =>
      obtain ⟨hletGo, hwaiting⟩ := hw.letGo e.feed
      obtain ⟨hstands, hsame⟩ := hhandler _ hletGo (.journal journal)
      exact ⟨hstands, hsame.trans hwaiting⟩
  | subscribe =>
      rw [StoreDeed.readied]
      split
      · obtain ⟨hfeed, hwaiting⟩ := hw.feed
        obtain ⟨hstands, hsame⟩ := hhandler _ hfeed (.feed d.feed.1)
        exact ⟨hstands, hsame.trans hwaiting⟩
      · exact ⟨hw, rfl⟩
  | _ => exact ⟨hw, rfl⟩

theorem Stands.concluded (hw : w.Stands d) (e : EventStore Archive) (before : Desk)
    (deed : StoreDeed) :
  w.Stands (deed.concluded e before d) ∧ w.waiting (deed.concluded e before d) = w.waiting d
  := by
  cases deed with
  | subscribe => exact ⟨hw.subscribe _, waiting_subscribe hw _⟩
  | close => exact hw.letGo e.feed
  | _ => exact ⟨hw, rfl⟩

end Watcher

/-- The operation does not drop what watches. -/
def Deed.Spares (w : Watcher) : Deed → Prop
  | onDesk deed => deed.Spares w
  | _ => True

namespace Scene

/-- The feed of the receiver is detached, and the receiver has got what it has got. -/
structure CutOff (r : Receiver) (got : List EventBatch) (s : Scene) : Prop where
  detached : s.1.desk.Detached r.feed
  stands : (Watcher.receiver r).Stands s.1.desk
  got : s.1.got r = got

variable {got : List EventBatch}

theorem CutOff.of_same (h : s.CutOff r got) (hdesk : s'.1.desk = s.1.desk)
    (htaken : s'.1.taken = s.1.taken) :
  s'.CutOff r got
  := by
  constructor
  · rw [hdesk]
    exact h.detached
  · rw [hdesk]
    exact h.stands
  · rw [← h.got]
    apply Watcher.received_of_same htaken
    rw [hdesk]

/-- Nothing reaches a receiver of a feed that is detached. -/
theorem CutOff.does (h : s.CutOff r got) {deed : Deed} (hspares : deed.Spares (.receiver r))
    (hdoes : s.Does deed s') :
  s'.CutOff r got
  := by
  cases hdoes with
  | still hstill _ => exact h.of_same hstill.desk hstill.taken
  | opens hopens => exact h.of_same hopens.desk hopens.taken
  | onDesk deed =>
      refine ⟨h.detached.grows (deed.grows_act s.1.desk), h.stands.act hspares, ?_⟩
      have hact := Watcher.received_act h.stands hspares
      rw [← h.got]
      simp only [Holdings.got_eq, Watcher.received, DeskDeed.run, Access.change,
        List.filter_append, List.map_append, List.append_assoc, hact]
  | @onStore e x deed u _ _ _ _ =>
      obtain ⟨hready, hreadied⟩ := h.stands.readied e deed
      have hcut := h.detached.grows (deed.grows_readied e s.1.desk)
      have hcalled := Watcher.waiting_process_of_unheard hready hcut.unheard
        (deed.calls e s.1.desk s.2)
      obtain ⟨hstands, hconcluded⟩ :=
        (hready.process (deed.calls e s.1.desk s.2)).concluded e s.1.desk deed
      have hdesk := deed.desk_act e (s.1.note u, s.2)
      refine ⟨h.detached.grows (deed.grows_act e (s.1.note u, s.2)), hdesk ▸ hstands, ?_⟩
      rw [← h.got]
      apply Watcher.received_of_same (deed.taken_act e _)
      rw [hdesk]
      exact hconcluded.trans (hcalled.trans hreadied)

/-- Nothing ever reaches a receiver of a feed that is detached, and it stays disconnected. -/
theorem CutOff.goes (h : s.CutOff r got)
    (hgoes : s.Goes (fun _ deed => deed.Spares (.receiver r)) s') (hs : s.Sound)
    (hattached : s.Attached) :
  s'.1.got r = got ∧ s'.1.desk.connected r = false
  := by
  obtain ⟨-, hattached', hcut⟩ := hgoes.keeps
    (fun _ _ hstill hcut => CutOff.of_same hcut hstill.desk hstill.taken)
    (fun _ deed hspares hs _ hcut => CutOff.does hcut hspares (deed.run_does hs)) hs hattached h
  exact ⟨hcut.got, hcut.detached.disconnected hattached'.desk⟩

end Scene

/-! ### The end of a supply -/

namespace StoreDeed

/-- The store is given another handler, or is closed. -/
def Ends : StoreDeed → Prop
  | setHandler _ | close => True
  | _ => False

variable {e : EventStore Archive} (honest : e.store.library.Honest)
  (hx : s.2.stores.get? e.store.ref = some x)

include honest hx

/-- A store that ends with its handler lets go of it. -/
theorem calls_of_ends {deed : StoreDeed} (hends : deed.Ends) {h : HandlerRef}
    (hh : x.handler = some h) (hp : x.pending = none) :
  deed.calls e s.1.desk s.2 = [.release h]
  := by
  have hrelease : x.releaseHandler = [.release h] := by
    simp [ArchiveStore.releaseHandler, hh, hp]
  cases deed with
  | setHandler journal => rw [calls_of_installs honest hx rfl, hrelease]
  | close =>
      have hstopped : x.stopListening = ([], { x with listening := false }) :=
        ArchiveStore.deliverPending_of_none hp
      rw [calls_close honest hx, ArchiveStore.close, hstopped]
      exact hrelease
  | _ => cases hends

end StoreDeed

namespace Desk

variable {d : Desk} {f : Nat} {e : EventStore Archive} {deed : StoreDeed}

theorem kept_letGo (h : ∃ k, d.feeds.get? f = some k) :
  ∃ k, (d.letGo (some f)).feeds.get? f = some k ∧ k.kept = false
  := by
  obtain ⟨k, hk⟩ := h
  refine ⟨{ k with kept := false }, ?_, rfl⟩
  simp [letGo, Table.get?_modify, hk]

/-- Letting go of the only handler that sends to a feed detaches the feed. -/
theorem Distinct.detached (hd : d.Distinct) {h : HandlerRef}
    (hsink : d.handlers.get? h = some (.feed f)) (hfeed : e.feed = some f)
    (hfound : ∃ k, d.feeds.get? f = some k) (hends : deed.Ends) :
  (deed.concluded e d ((deed.readied e d).process [.release h])).Detached f
  := by
  have hgrows : d.Grows (deed.concluded e d ((deed.readied e d).process [.release h])) := by
    apply trans_of Grows (deed.grows_readied e d)
    apply trans_of Grows (grows_process _ _)
    apply deed.grows_concluded
  refine ⟨?_, Nat.lt_of_lt_of_le (hd.made h f hsink) hgrows.nextFeed, ?_⟩
  · intro g hg
    have hreadied : g ≠ h ∧ (deed.readied e d).handlers.get? g = some (.feed f) := by
      have herased : ((deed.readied e d).call (.release h)).handlers.get? g = some (.feed f) := by
        cases deed with
        | setHandler journal => exact hg
        | close =>
            rw [StoreDeed.concluded, handlers_letGo] at hg
            exact hg
        | _ => cases hends
      rw [call, Table.get?_erase] at herased
      split at herased
      · cases herased
      case isFalse hne => exact ⟨hne, herased⟩
    obtain ⟨hne, hg⟩ := hreadied
    -- The handler that is installed in its place sends to a journal.
    have hold : d.handlers.get? g = some (.feed f) := by
      cases deed with
      | setHandler journal =>
          rcases Table.found_insert hg with hg | ⟨-, hg⟩
          · rw [handlers_letGo] at hg
            exact hg
          · cases hg
      | close => exact hg
      | _ => cases hends
    exact hne (hd.single g h f hold hsink)
  · cases deed with
    | setHandler journal =>
        have hletGo := kept_letGo hfound
        rw [← hfeed] at hletGo
        apply Detached.kept_of_grows _ hletGo
        apply trans_of Grows _ (grows_process _ _)
        exact (refl_of Grows _).handler _ fun f hf => by cases hf
    | close =>
        rw [StoreDeed.concluded, hfeed]
        exact kept_letGo (feed_process hfound _)
    | _ => cases hends

end Desk

namespace Scene

/-- A receiver is cut off when the store is given another handler or is closed. It can still take
what it has got. -/
theorem Watches.cutOff (hw : s.Watches (.receiver r) ref) (hs : s.Sound) (hinStep : s.InStep)
    (hattached : s.Attached) (hsettled : s.Settled ref) {deed : StoreDeed} (hends : deed.Ends) :
  (s.after ref deed).CutOff r (s.1.got r)
  := by
  obtain ⟨e, x, h, hw⟩ := hw
  obtain ⟨rfl, hmem, honest, -⟩ := hs.store_held hw.held
  have hfeed := hw.feed r rfl
  obtain ⟨-, -, -, -, -, hfound⟩ := hattached.feeds e hmem r.feed hfeed
  let u : Use := ⟨e.store.directory, deed.installs e⟩
  have hafter : s.after e.store.ref deed = (deed.act e (s.1.note u, s.2)).2 :=
    congrArg Prod.snd (Deed.run_onStore hw.held deed)
  have hcalls := StoreDeed.calls_of_ends honest (s := (s.1.note u, s.2)) hw.opened hends hw.handler
    (hsettled x hw.opened)
  have hdesk := deed.desk_act e (s.1.note u, s.2)
  rw [hcalls] at hdesk
  obtain ⟨hready, hreadied⟩ := hw.stands.readied e deed
  obtain ⟨hstands, hconcluded⟩ :=
    (hready.process [.release h]).concluded e s.1.desk deed
  rw [hafter]
  constructor
  · rw [hdesk]
    exact hinStep.distinct.detached hw.sink hfeed hfound hends
  · rw [hdesk]
    exact hstands
  · apply Watcher.received_of_same (deed.taken_act e _)
    have hreleased : (Watcher.receiver r).waiting ((deed.readied e s.1.desk).process [.release h])
        = (Watcher.receiver r).waiting (deed.readied e s.1.desk) :=
      (Watcher.waiting_call hready (.release h)).trans (List.append_nil _)
    rw [hdesk]
    exact hconcluded.trans (hreleased.trans hreadied)

end Scene

/-! ### Handlers that are gone -/

namespace ArchiveStore

variable {h : HandlerRef} {n : NotificationView}

/-- A store delivers to a handler that it keeps. -/
theorem keeps_of_deliver {t : Turn} (hc : .deliver h n ∈ (x.turn t).1) :
  x.Keeps h
  := by
  have hdeliver : ∀ m, .deliver h n ∈ x.deliver m → x.Keeps h := by
    intro m hm
    obtain ⟨g, hg, heq⟩ := List.mem_map.mp hm
    obtain ⟨rfl, -⟩ := HandlerCall.deliver.inj heq
    exact .inl (Option.mem_toList.mp hg)
  have hpending : ∀ y : ArchiveStore, .deliver h n ∈ y.deliverPending.1 → y.Keeps h := by
    intro y hy
    rw [deliverPending] at hy
    split at hy
    case h_1 => cases hy
    case h_2 g m hp =>
        rcases List.mem_cons.mp hy with heq | hy
        · obtain ⟨rfl, rfl⟩ := HandlerCall.deliver.inj heq
          exact .inr ⟨n, hp⟩
        · split at hy
          · cases hy
          · cases List.mem_singleton.mp hy
  cases t with
  | rest => cases hc
  | discarded unit =>
      rw [turn, discard] at hc
      split at hc
      · split at hc
        · exact hdeliver _ hc
        · cases hc
      · cases hc
  | began wait =>
      cases wait with
      | true => exact hdeliver _ hc
      | false => cases hc
  | stopped => exact hpending { x with listening := false } hc
  | caughtUp => exact hpending x hc

theorem not_deliver_releaseHandler (x : ArchiveStore) :
  .deliver h n ∉ x.releaseHandler
  := by
  intro hc
  obtain ⟨g, hg⟩ := x.releases_releaseHandler _ hc
  cases hg

end ArchiveStore

theorem StoreDeed.keeps_of_deliver {e : EventStore Archive} (honest : e.store.library.Honest)
    (hx : s.2.stores.get? e.store.ref = some x) {deed : StoreDeed} {h : HandlerRef}
    {n : NotificationView} (hc : .deliver h n ∈ deed.calls e s.1.desk s.2) :
  x.Keeps h
  := by
  by_cases hturns : deed.turns = true
  · rw [calls_of_turns honest hx hturns] at hc
    exact ArchiveStore.keeps_of_deliver hc
  · cases deed with
    | setHandler journal =>
        rw [calls_of_installs honest hx rfl] at hc
        exact absurd hc x.not_deliver_releaseHandler
    | subscribe =>
        cases hfeed : e.feed with
        | some f =>
            rw [calls, hfeed] at hc
            cases hc
        | none =>
            have hinstalls : subscribe.installs e = true := congrArg Option.isNone hfeed
            rw [calls_of_installs honest hx hinstalls] at hc
            exact absurd hc x.not_deliver_releaseHandler
    | close =>
        rw [calls_close honest hx] at hc
        rcases List.mem_append.mp hc with hc | hc
        · exact ArchiveStore.keeps_of_deliver (t := .stopped) hc
        · exact absurd hc (ArchiveStore.not_deliver_releaseHandler _)
    | _ => exact absurd rfl hturns

/-- The library delivers to handlers that the store keeps. -/
theorem Scene.Does.keeps_of_deliver {deed : Deed} (hdoes : s.Does deed s') {h : HandlerRef}
    {n : NotificationView} (hc : .deliver h n ∈ deed.calls ref s) :
  ∃ x, s.2.stores.get? ref = some x ∧ x.Keeps h
  := by
  cases hdoes with
  | still _ hrests =>
      rw [Deed.calls_of_rests hrests] at hc
      cases hc
  | onDesk deed => cases hc
  | opens _ => cases hc
  | @onStore e x deed u held honest opened _ =>
      by_cases href : e.store.ref = ref
      · subst href
        rw [Deed.calls_onStore held] at hc
        exact ⟨x, opened, StoreDeed.keeps_of_deliver honest opened hc⟩
      · rw [Deed.calls, Deed.at?_of_ne href] at hc
        cases hc

/-- The desk has let go of the handler. -/
def Desk.Gone (d : Desk) (h : HandlerRef) : Prop :=
  d.handlers.get? h = none ∧ h < d.handlers.next

theorem Desk.Gone.grows {d d' : Desk} {h : HandlerRef} (hgone : d.Gone h) (hgrows : d.Grows d') :
  d'.Gone h
  := by
  obtain ⟨hnone, hlt⟩ := hgone
  refine ⟨?_, Nat.lt_of_lt_of_le hlt hgrows.nextHandler⟩
  rw [Option.eq_none_iff_forall_ne_some]
  intro sink hsink
  rcases hgrows.handlers h sink hsink with hold | ⟨hnew, -⟩
  · rw [hnone] at hold
    cases hold
  · exact Nat.not_lt.mpr hnew hlt

namespace Scene

/-- Nothing is ever delivered to a handler of which the desk has let go. -/
theorem Traces.gone {allowed : Scene → Deed → Prop} {calls : List HandlerCall}
    (ht : s.Traces allowed (Deed.calls ref) calls s') (hs : s.Sound) (hattached : s.Attached)
    (hinStep : s.InStep) {h : HandlerRef} (hgone : s.1.desk.Gone h) :
  s'.Sound ∧ s'.Attached ∧ s'.InStep ∧ s'.1.desk.Gone h ∧ ∀ n, .deliver h n ∉ calls
  := by
  induction ht with
  | here => exact ⟨hs, hattached, hinStep, hgone, fun _ hc => by cases hc⟩
  | @deed calls y deed _ _ ih =>
      obtain ⟨hs', hattached', hinStep', hgone', hcalls⟩ := ih
      have hdoes := deed.run_does hs'
      refine ⟨(deed.run_leads y hs').1, hattached'.run hs' deed, hinStep'.does hs' hattached' hdoes,
        hgone'.grows hdoes.grows, ?_⟩
      intro n hc
      rcases List.mem_append.mp hc with hc | hc
      · exact hcalls n hc
      · obtain ⟨x, hx, hkept⟩ := hdoes.keeps_of_deliver hc
        obtain ⟨sink, hsink⟩ := hinStep'.tended ref x h hx hkept
        rw [hgone'.1] at hsink
        cases hsink
  | begun _ hmove ih =>
      obtain ⟨hs', hattached', hinStep', hgone', hcalls⟩ := ih
      obtain ⟨hs'', ⟨deed, hdeed, -⟩ | hstill⟩ := hmove.deed_or_still hs'
      · cases hdeed
      · refine ⟨hs'', hattached'.still hstill, hinStep'.still hstill, ?_, hcalls⟩
        rw [hstill.desk]
        exact hgone'

end Scene

end SymbolIndex
