import SymbolIndex.Events.Desk

/-!
# The story of the handlers of a store

A story tells, one after the other, when handlers are installed, called and finalized. A delivery
of a first notification that has been left to the background is due at first, and runs for a while
before the handler returns from it. Meanwhile other things can happen. The story of a store goes
on by a few kinds of steps, none of which uses a handler that has been finalized.
-/

namespace SymbolIndex

/-- Something that happens to the handlers of a store. -/
inductive HandlerEvent where
  | installed (h : HandlerRef)
  /-- Listening begins, and the handler is to get a first notification. -/
  | began (h : HandlerRef) (n : NotificationView)
  | called (h : HandlerRef) (n : NotificationView)
  | returned (h : HandlerRef) (n : NotificationView)
  | finalized (h : HandlerRef)
  /-- The store is about to be closed. -/
  | closing

namespace HandlerEvent

/-- The handler to which it happens. -/
def handler? : HandlerEvent → Option HandlerRef
  | installed h | began h _ | called h _ | returned h _ | finalized h => some h
  | closing => none

def installs (h : HandlerRef) : HandlerEvent → Bool
  | installed g => g == h
  | _ => false

def finalizes (h : HandlerRef) : HandlerEvent → Bool
  | finalized g => g == h
  | _ => false

def calls (h : HandlerRef) : HandlerEvent → Bool
  | called g _ => g == h
  | _ => false

def returns (h : HandlerRef) : HandlerEvent → Bool
  | returned g _ => g == h
  | _ => false

/-- A first notification is to be delivered. -/
def begins (h : HandlerRef) : HandlerEvent → Bool
  | began g _ => g == h
  | _ => false

/-- A first notification has been delivered. -/
def ends (h : HandlerRef) : HandlerEvent → Bool
  | returned g n => g == h && n.isInitial
  | _ => false

/-- The handler that comes into use. -/
def new? : HandlerEvent → Option HandlerRef
  | installed h => some h
  | _ => none

/-- The first notification that is to be delivered, with the handler that is to get it. -/
def due? : HandlerEvent → Option (HandlerRef × NotificationView)
  | began h n => some (h, n)
  | _ => none

/-- The first notification of which a handler is told. -/
def told? : HandlerEvent → Option (HandlerRef × NotificationView)
  | called h n => if n.isInitial then some (h, n) else none
  | _ => none

end HandlerEvent

/-- The delivery that is left to the background. -/
inductive Delivery where
  | none
  /-- The handler has not been called yet. -/
  | due (h : HandlerRef) (n : NotificationView)
  /-- The handler has not returned yet. -/
  | running (h : HandlerRef) (n : NotificationView)

namespace Delivery

def handler? : Delivery → Option HandlerRef
  | none => .none
  | due h _ | running h _ => some h

/-- What is still to be told. -/
def left : Delivery → List (HandlerRef × NotificationView)
  | due h n => [(h, n)]
  | _ => []

/-- The handler is being called. -/
def runs (h : HandlerRef) : Delivery → Nat
  | running g _ => if g = h then 1 else 0
  | _ => 0

/-- Something is to be delivered to the handler. -/
def awaited (h : HandlerRef) : Delivery → Nat
  | due g _ | running g _ => if g = h then 1 else 0
  | none => 0

end Delivery

open HandlerEvent (installed began called returned finalized closing)

/-- A story, first event first. -/
abbrev Story := List HandlerEvent

namespace Story

variable (t : Story)

/-- Another handler has been installed since. -/
def Replaced (h : HandlerRef) : Prop :=
  ∃ before after g, t = before ++ installed h :: after ∧ installed g ∈ after

/-- The handler has been installed and has not been finalized. -/
def Live (h : HandlerRef) : Prop := installed h ∈ t ∧ finalized h ∉ t

/-- The time has come to finalize a handler: the store has no more use for it, and nothing is being
delivered to it or will be. -/
structure Ripe (h : HandlerRef) : Prop where
  installed : installed h ∈ t
  unused : closing ∈ t ∨ t.Replaced h
  balanced : t.countP (HandlerEvent.calls h) = t.countP (HandlerEvent.returns h)
  delivered : t.countP (HandlerEvent.begins h) = t.countP (HandlerEvent.ends h)

/-- A handler is finalized when the time has come, and nothing happens to it afterwards. -/
def Orderly : Prop :=
  ∀ before h after, t = before ++ finalized h :: after →
    Ripe before h ∧ ∀ ev ∈ after, ev.handler? ≠ some h

/-- The handler that has been installed last. -/
def latest? : Option HandlerRef := (t.filterMap HandlerEvent.new?).getLast?

/-- A first notification is for the handler that has been installed last. -/
def Addressed : Prop :=
  ∀ before h n after, t = before ++ began h n :: after → latest? before = some h

/-- The story up to a moment. The next handler of the desk is a new one. -/
structure Upto (next : HandlerRef) (current : Option HandlerRef) (delivery : Delivery) : Prop where
  made : ∀ h, installed h ∈ t → h < next
  once : ∀ h, t.countP (HandlerEvent.installs h) ≤ 1
  known : ∀ ev ∈ t, ∀ h, ev.handler? = some h → installed h ∈ t
  keeps : ∀ h, current = some h → t.Live h
  latest : ∀ h, current = some h → t.latest? = some h
  delivers : ∀ h, delivery.handler? = some h → t.Live h
  unused : ∀ h, installed h ∈ t → current ≠ some h → closing ∈ t ∨ t.Replaced h
  balanced : ∀ h, t.countP (HandlerEvent.calls h)
    = t.countP (HandlerEvent.returns h) + delivery.runs h
  delivered : ∀ h, t.countP (HandlerEvent.begins h)
    = t.countP (HandlerEvent.ends h) + delivery.awaited h
  told : t.filterMap HandlerEvent.due? = t.filterMap HandlerEvent.told? ++ delivery.left
  orderly : t.Orderly
  addressed : t.Addressed

variable {t : Story}

/-- An event of a story with one more event at its end. -/
theorem split_concat {ev ev' : HandlerEvent} {before after : Story}
    (hsplit : t ++ [ev] = before ++ ev' :: after) :
  (ev = ev' ∧ before = t ∧ after = [])
    ∨ ∃ after', after = after' ++ [ev] ∧ t = before ++ ev' :: after'
  := by
  rcases List.eq_nil_or_concat after with rfl | ⟨after', ev', rfl⟩
  · obtain ⟨rfl, hev⟩ := List.append_inj' hsplit rfl
    exact .inl ⟨(List.singleton_inj.mp hev), rfl, rfl⟩
  · rw [List.concat_eq_append, ← List.cons_append, ← List.append_assoc] at hsplit
    obtain ⟨rfl, hlast⟩ := List.append_inj' hsplit rfl
    obtain rfl := List.singleton_inj.mp hlast
    exact .inr ⟨after', List.concat_eq_append, rfl⟩

/-- One event more. -/
theorem Orderly.concat (ht : t.Orderly) {ev : HandlerEvent}
    (hlive : ∀ h, ev.handler? = some h → finalized h ∉ t)
    (hripe : ∀ h, ev = finalized h → t.Ripe h) :
  Orderly (t ++ [ev])
  := by
  intro before h after hsplit
  rcases split_concat hsplit with ⟨rfl, rfl, rfl⟩ | ⟨after', rfl, hold⟩
  · exact ⟨hripe h rfl, fun _ hev => by cases hev⟩
  · obtain ⟨hbefore, hafter⟩ := ht before h after' hold
    refine ⟨hbefore, ?_⟩
    intro ev' hev'
    rcases List.mem_append.mp hev' with hev' | hev'
    · exact hafter ev' hev'
    · obtain rfl := List.mem_singleton.mp hev'
      intro hh
      apply hlive h hh
      rw [hold]
      exact List.mem_append_right _ List.mem_cons_self

theorem Addressed.concat (ht : t.Addressed) {ev : HandlerEvent}
    (hbegan : ∀ h n, ev = began h n → t.latest? = some h) :
  Addressed (t ++ [ev])
  := by
  intro before h n after hsplit
  rcases split_concat hsplit with ⟨rfl, rfl, rfl⟩ | ⟨after', rfl, hold⟩
  · exact hbegan h n rfl
  · exact ht before h n after' hold

theorem Replaced.append {h : HandlerRef} (ht : t.Replaced h) (evs : List HandlerEvent) :
  Replaced (t ++ evs) h
  := by
  obtain ⟨before, after, g, rfl, hg⟩ := ht
  refine ⟨before, after ++ evs, g, ?_, List.mem_append_left _ hg⟩
  rw [List.append_assoc, List.cons_append]

/-- A handler that is there when another one is installed has been replaced. -/
theorem Replaced.of_installed {h : HandlerRef} (hh : installed h ∈ t) (g : HandlerRef) :
  Replaced (t ++ [installed g]) h
  := by
  obtain ⟨before, after, rfl⟩ := List.append_of_mem hh
  refine ⟨before, after ++ [installed g], g, ?_, by simp⟩
  rw [List.append_assoc, List.cons_append]

theorem countP_installs_eq_zero {h : HandlerRef} (hnew : installed h ∉ t) :
  t.countP (HandlerEvent.installs h) = 0
  := by
  rw [List.countP_eq_zero]
  intro ev hev
  cases ev with
  | installed g =>
      intro hg
      obtain rfl : g = h := by simpa [HandlerEvent.installs] using hg
      exact hnew hev
  | _ => exact Bool.false_ne_true

/-! ### Events in which no handler comes or goes -/

end Story

/-- No handler comes or goes. -/
def HandlerEvent.Quiet (ev : HandlerEvent) : Prop := ∀ h, ev ≠ installed h ∧ ev ≠ finalized h

namespace Story

variable {t : Story} {next : HandlerRef} {current : Option HandlerRef} {delivery : Delivery}
  {evs : List HandlerEvent}

theorem Orderly.append (ht : t.Orderly) (hquiet : ∀ ev ∈ evs, ev.Quiet)
    (hlive : ∀ ev ∈ evs, ∀ h, ev.handler? = some h → finalized h ∉ t) :
  Orderly (t ++ evs)
  := by
  induction evs generalizing t with
  | nil => rwa [List.append_nil]
  | cons ev evs ih =>
      have hfirst : Orderly (t ++ [ev]) := by
        apply ht.concat (hlive ev List.mem_cons_self)
        rintro h rfl
        exact absurd rfl (hquiet _ List.mem_cons_self h).2
      have hrest := ih hfirst (fun ev' h => hquiet ev' (List.mem_cons_of_mem _ h)) ?_
      · rwa [List.append_assoc] at hrest
      · intro ev' hev' h hh hfinal
        rcases List.mem_append.mp hfinal with hfinal | hfinal
        · exact hlive ev' (List.mem_cons_of_mem _ hev') h hh hfinal
        · exact (hquiet ev List.mem_cons_self h).2 (List.mem_singleton.mp hfinal).symm

theorem latest?_append (hquiet : ∀ ev ∈ evs, ev.Quiet) :
  latest? (t ++ evs) = t.latest?
  := by
  have hnone : evs.filterMap HandlerEvent.new? = [] := by
    rw [List.filterMap_eq_nil_iff]
    intro ev hev
    cases ev with
    | installed h => exact absurd rfl (hquiet _ hev h).1
    | _ => rfl
  rw [latest?, List.filterMap_append, hnone, List.append_nil, latest?]

theorem Addressed.append (ht : t.Addressed) (hquiet : ∀ ev ∈ evs, ev.Quiet)
    (hbegan : ∀ h n, began h n ∈ evs → t.latest? = some h) :
  Addressed (t ++ evs)
  := by
  induction evs generalizing t with
  | nil => rwa [List.append_nil]
  | cons ev evs ih =>
      have hfirst : Addressed (t ++ [ev]) := by
        apply ht.concat
        rintro h n rfl
        exact hbegan h n List.mem_cons_self
      have hrest := ih hfirst (fun ev' h => hquiet ev' (List.mem_cons_of_mem _ h)) ?_
      · rwa [List.append_assoc] at hrest
      · intro h n hev
        rw [latest?_append (by simpa using hquiet ev List.mem_cons_self)]
        exact hbegan h n (List.mem_cons_of_mem _ hev)

theorem live_append (hquiet : ∀ ev ∈ evs, ev.Quiet) (h : HandlerRef) :
  Live (t ++ evs) h ↔ t.Live h
  := by
  have hinstalled : installed h ∉ evs := fun hev => (hquiet _ hev h).1 rfl
  have hfinalized : finalized h ∉ evs := fun hev => (hquiet _ hev h).2 rfl
  simp [Live, List.mem_append, hinstalled, hfinalized]

/-- Handlers are called and return, and none comes or goes. -/
theorem Upto.append (ht : t.Upto next current delivery) (hquiet : ∀ ev ∈ evs, ev.Quiet)
    (hlive : ∀ ev ∈ evs, ∀ h, ev.handler? = some h → t.Live h) {delivery' : Delivery}
    (hbegan : ∀ h n, began h n ∈ evs → t.latest? = some h)
    (hdelivers : ∀ h, delivery'.handler? = some h → t.Live h)
    (hbalanced : ∀ h, evs.countP (HandlerEvent.calls h) + delivery.runs h
      = evs.countP (HandlerEvent.returns h) + delivery'.runs h)
    (hdelivered : ∀ h, evs.countP (HandlerEvent.begins h) + delivery.awaited h
      = evs.countP (HandlerEvent.ends h) + delivery'.awaited h)
    (htold : delivery.left ++ evs.filterMap HandlerEvent.due?
      = evs.filterMap HandlerEvent.told? ++ delivery'.left) :
  Upto (t ++ evs) next current delivery'
  := by
  have hnew : ∀ h, installed h ∉ evs := fun h hev => (hquiet _ hev h).1 rfl
  have hinstalled : ∀ h, installed h ∈ t ++ evs → installed h ∈ t :=
    fun h hh => (List.mem_append.mp hh).resolve_right (hnew h)
  constructor
  case made => exact fun h hh => ht.made h (hinstalled h hh)
  case once =>
    intro h
    rw [List.countP_append, countP_installs_eq_zero (hnew h)]
    exact ht.once h
  case known =>
    intro ev hev h hh
    apply List.mem_append_left
    rcases List.mem_append.mp hev with hev | hev
    · exact ht.known ev hev h hh
    · exact (hlive ev hev h hh).1
  case keeps => exact fun h hh => (live_append hquiet h).mpr (ht.keeps h hh)
  case latest =>
    rw [latest?_append hquiet]
    exact ht.latest
  case delivers => exact fun h hh => (live_append hquiet h).mpr (hdelivers h hh)
  case unused =>
    intro h hh hcurrent
    exact (ht.unused h (hinstalled h hh) hcurrent).imp (List.mem_append_left _)
      fun hreplaced => hreplaced.append evs
  case balanced =>
    intro h
    rw [List.countP_append, List.countP_append, ht.balanced h]
    have := hbalanced h
    omega
  case delivered =>
    intro h
    rw [List.countP_append, List.countP_append, ht.delivered h]
    have := hdelivered h
    omega
  case told =>
    rw [List.filterMap_append, List.filterMap_append, ht.told, List.append_assoc, htold,
      List.append_assoc]
  case orderly => exact ht.orderly.append hquiet fun ev hev h hh => (hlive ev hev h hh).2
  case addressed => exact ht.addressed.append hquiet hbegan

/-- Listening begins, and the handler is to get a first notification. -/
theorem Upto.begin (ht : t.Upto next current .none) {h : HandlerRef} (hh : current = some h)
    (n : NotificationView) :
  Upto (t ++ [began h n]) next current (.due h n)
  := by
  have hlive := ht.keeps h hh
  apply ht.append
  · simp [HandlerEvent.Quiet]
  · simpa [HandlerEvent.handler?] using hlive
  · simpa using ht.latest h hh
  · simpa [Delivery.handler?] using hlive
  · intro g
    simp [HandlerEvent.calls, HandlerEvent.returns, Delivery.runs]
  · intro g
    simp [HandlerEvent.begins, HandlerEvent.ends, Delivery.awaited, List.countP_singleton]
  · rfl

/-- The handler is called for a delivery in the background. -/
theorem Upto.enter {h : HandlerRef} {n : NotificationView}
    (ht : t.Upto next current (.due h n)) (hn : n.isInitial = true) :
  Upto (t ++ [called h n]) next current (.running h n)
  := by
  have hlive := ht.delivers h rfl
  apply ht.append
  · simp [HandlerEvent.Quiet]
  · simpa [HandlerEvent.handler?] using hlive
  · simp
  · simpa [Delivery.handler?] using hlive
  · intro g
    simp [HandlerEvent.calls, HandlerEvent.returns, Delivery.runs, List.countP_singleton]
  · intro g
    simp [HandlerEvent.begins, HandlerEvent.ends, Delivery.awaited]
  · simp [HandlerEvent.due?, HandlerEvent.told?, Delivery.left, hn]

/-- The handler returns from a delivery in the background. -/
theorem Upto.leave {h : HandlerRef} {n : NotificationView}
    (ht : t.Upto next current (.running h n)) (hn : n.isInitial = true) :
  Upto (t ++ [returned h n]) next current .none
  := by
  have hlive := ht.delivers h rfl
  apply ht.append
  · simp [HandlerEvent.Quiet]
  · simpa [HandlerEvent.handler?] using hlive
  · simp
  · simp [Delivery.handler?]
  · intro g
    simp [HandlerEvent.calls, HandlerEvent.returns, Delivery.runs, List.countP_singleton]
  · intro g
    simp [HandlerEvent.begins, HandlerEvent.ends, Delivery.awaited, List.countP_singleton, hn]
  · rfl

/-- The handler is told of something else. -/
theorem Upto.tell (ht : t.Upto next current delivery) {h : HandlerRef} (hh : current = some h)
    {n : NotificationView} (hn : n.isInitial = false) :
  Upto (t ++ [called h n, returned h n]) next current delivery
  := by
  have hlive := ht.keeps h hh
  apply ht.append
  · simp [HandlerEvent.Quiet]
  · simpa [HandlerEvent.handler?] using hlive
  · simp
  · exact ht.delivers
  · intro g
    simp [HandlerEvent.calls, HandlerEvent.returns, List.countP_cons]
  · intro g
    simp [HandlerEvent.begins, HandlerEvent.ends, hn]
  · simp [List.filterMap_cons, HandlerEvent.due?, HandlerEvent.told?, hn]

/-! ### Handlers that come and go -/

theorem Upto.mono (ht : t.Upto next current delivery) {later : HandlerRef} (h : next ≤ later) :
  t.Upto later current delivery
  := { ht with made := fun g hg => Nat.lt_of_lt_of_le (ht.made g hg) h }

theorem Upto.new (ht : t.Upto next current delivery) :
  installed next ∉ t ∧ finalized next ∉ t
  := by
  have hnew : installed next ∉ t := fun h => Nat.lt_irrefl _ (ht.made next h)
  exact ⟨hnew, fun h => hnew (ht.known _ h next rfl)⟩

theorem Upto.live_install (ht : t.Upto next current delivery) {h : HandlerRef} :
  Live (t ++ [installed next]) h ↔ t.Live h ∨ h = next
  := by
  constructor
  · rintro ⟨hin, hout⟩
    rcases List.mem_append.mp hin with hin | hin
    · exact .inl ⟨hin, fun h => hout (List.mem_append_left _ h)⟩
    · exact .inr (HandlerEvent.installed.inj (List.mem_singleton.mp hin))
  · rintro (⟨hin, hout⟩ | rfl)
    · exact ⟨List.mem_append_left _ hin, by simpa using hout⟩
    · exact ⟨List.mem_append_right _ (List.mem_singleton.mpr rfl), by simpa using ht.new.2⟩

/-- A new handler is installed in the place of the current one. -/
theorem Upto.install (ht : t.Upto next current delivery) :
  Upto (t ++ [installed next]) (next + 1) (some next) delivery
  := by
  have hinstalled : ∀ h, installed h ∈ t ++ [installed next] → installed h ∈ t ∨ h = next := by
    intro h hh
    simpa using hh
  constructor
  case made =>
    intro h hh
    rcases hinstalled h hh with hh | rfl
    · exact Nat.lt_succ_of_lt (ht.made h hh)
    · exact Nat.lt_succ_self _
  case once =>
    intro h
    rw [List.countP_append, List.countP_singleton]
    by_cases hh : next = h
    · subst hh
      simp [HandlerEvent.installs, countP_installs_eq_zero ht.new.1]
    · simpa [HandlerEvent.installs, hh] using ht.once h
  case known =>
    intro ev hev h hh
    rcases List.mem_append.mp hev with hev | hev
    · exact List.mem_append_left _ (ht.known ev hev h hh)
    · obtain rfl := List.mem_singleton.mp hev
      obtain rfl := Option.some.inj hh
      exact List.mem_append_right _ (List.mem_singleton.mpr rfl)
  case keeps => exact fun h hh => ht.live_install.mpr (.inr (Option.some.inj hh).symm)
  case latest =>
    intro h hh
    simp [latest?, List.filterMap_append, HandlerEvent.new?, ← hh]
  case delivers => exact fun h hh => ht.live_install.mpr (.inl (ht.delivers h hh))
  case unused =>
    intro h hh hne
    rcases hinstalled h hh with hh | rfl
    · exact .inr (.of_installed hh next)
    · exact absurd rfl hne
  case balanced =>
    intro h
    simpa [HandlerEvent.calls, HandlerEvent.returns] using ht.balanced h
  case delivered =>
    intro h
    simpa [HandlerEvent.begins, HandlerEvent.ends] using ht.delivered h
  case told => simpa [List.filterMap_cons, HandlerEvent.due?, HandlerEvent.told?] using ht.told
  case orderly =>
    apply ht.orderly.concat
    · rintro h hh
      obtain rfl := Option.some.inj hh
      exact ht.new.2
    · intro h hh
      cases hh
  case addressed =>
    apply ht.addressed.concat
    intro h n hev
    cases hev

/-- The store is about to be closed, and has no more use for its handler. -/
theorem Upto.close (ht : t.Upto next current delivery) :
  Upto (t ++ [closing]) next .none delivery
  := by
  have hsame : Upto (t ++ [closing]) next current delivery := by
    apply ht.append
    · simp [HandlerEvent.Quiet]
    · simp [HandlerEvent.handler?]
    · simp
    · exact ht.delivers
    · simp [HandlerEvent.calls, HandlerEvent.returns]
    · simp [HandlerEvent.begins, HandlerEvent.ends]
    · simp [List.filterMap_cons, HandlerEvent.due?, HandlerEvent.told?]
  have hclosing : closing ∈ t ++ [closing] := List.mem_append_right _ (List.mem_singleton.mpr rfl)
  exact { hsame with
    keeps := fun _ hh => by cases hh
    latest := fun _ hh => by cases hh
    unused := fun _ _ _ => .inl hclosing }

/-- The time has come to finalize a handler that lives and is not in use any more. -/
theorem Upto.ripe (ht : t.Upto next current delivery) {h : HandlerRef} (hlive : t.Live h)
    (hcurrent : current ≠ some h) (hdelivery : delivery.handler? ≠ some h) :
  t.Ripe h
  := by
  have hidle : delivery.awaited h = 0 ∧ delivery.runs h = 0 := by
    cases delivery with
    | none => exact ⟨rfl, rfl⟩
    | due g n | running g n =>
        have hne : g ≠ h := by
          rintro rfl
          exact hdelivery rfl
        simp [Delivery.awaited, Delivery.runs, hne]
  have hbalanced := ht.balanced h
  have hdelivered := ht.delivered h
  rw [hidle.2] at hbalanced
  rw [hidle.1] at hdelivered
  exact ⟨hlive.1, ht.unused h hlive.1 hcurrent, hbalanced, hdelivered⟩

theorem live_finalize {h g : HandlerRef} :
  Live (t ++ [finalized h]) g ↔ t.Live g ∧ g ≠ h
  := by
  simp [Live, and_assoc]

/-- A handler is finalized that is not in use any more. -/
theorem Upto.finalize (ht : t.Upto next current delivery) {h : HandlerRef} (hlive : t.Live h)
    (hcurrent : current ≠ some h) (hdelivery : delivery.handler? ≠ some h) :
  Upto (t ++ [finalized h]) next current delivery
  := by
  have hinstalled : ∀ g, installed g ∈ t ++ [finalized h] → installed g ∈ t := by
    intro g hg
    simpa using hg
  constructor
  case made => exact fun g hg => ht.made g (hinstalled g hg)
  case once =>
    intro g
    simpa [HandlerEvent.installs] using ht.once g
  case known =>
    intro ev hev g hg
    apply List.mem_append_left
    rcases List.mem_append.mp hev with hev | hev
    · exact ht.known ev hev g hg
    · obtain rfl := List.mem_singleton.mp hev
      obtain rfl := Option.some.inj hg
      exact hlive.1
  case keeps =>
    intro g hg
    refine live_finalize.mpr ⟨ht.keeps g hg, ?_⟩
    rintro rfl
    exact hcurrent hg
  case latest =>
    intro g hg
    rw [← ht.latest g hg]
    simp [latest?, List.filterMap_append, HandlerEvent.new?]
  case delivers =>
    intro g hg
    refine live_finalize.mpr ⟨ht.delivers g hg, ?_⟩
    rintro rfl
    exact hdelivery hg
  case unused =>
    intro g hg hne
    exact (ht.unused g (hinstalled g hg) hne).imp (List.mem_append_left _)
      fun hreplaced => hreplaced.append _
  case balanced =>
    intro g
    simpa [HandlerEvent.calls, HandlerEvent.returns] using ht.balanced g
  case delivered =>
    intro g
    simpa [HandlerEvent.begins, HandlerEvent.ends] using ht.delivered g
  case told => simpa [List.filterMap_cons, HandlerEvent.due?, HandlerEvent.told?] using ht.told
  case orderly =>
    apply ht.orderly.concat
    · intro g hg
      obtain rfl := Option.some.inj hg
      exact hlive.2
    · intro g hg
      obtain rfl := HandlerEvent.finalized.inj hg
      exact ht.ripe hlive hcurrent hdelivery
  case addressed =>
    apply ht.addressed.concat
    intro g n hev
    cases hev

/-- Handlers are finalized one after the other. -/
theorem Upto.finalizeAll (ht : t.Upto next current .none) (handlers : List HandlerRef)
    (hdistinct : handlers.Nodup) (hlive : ∀ h ∈ handlers, t.Live h ∧ current ≠ some h) :
  Upto (t ++ handlers.map finalized) next current .none
    ∧ ∀ h, Live (t ++ handlers.map finalized) h → t.Live h ∧ h ∉ handlers
  := by
  induction handlers generalizing t with
  | nil =>
      rw [List.map_nil, List.append_nil]
      exact ⟨ht, fun h hh => ⟨hh, List.not_mem_nil⟩⟩
  | cons g handlers ih =>
      obtain ⟨hnew, hdistinct⟩ := List.nodup_cons.mp hdistinct
      obtain ⟨hg, hcurrent⟩ := hlive g List.mem_cons_self
      have hfirst := ht.finalize hg hcurrent (by simp [Delivery.handler?])
      obtain ⟨hrest, hleft⟩ := ih hfirst hdistinct fun h hh => by
        obtain ⟨hlive, hunused⟩ := hlive h (List.mem_cons_of_mem _ hh)
        refine ⟨live_finalize.mpr ⟨hlive, ?_⟩, hunused⟩
        rintro rfl
        exact hnew hh
      rw [List.map_cons, List.append_cons]
      refine ⟨hrest, fun h hh => ?_⟩
      obtain ⟨hfirst, hother⟩ := hleft h hh
      obtain ⟨hlive, hne⟩ := live_finalize.mp hfirst
      exact ⟨hlive, by simp [hne, hother]⟩

/-- At the beginning of a story. -/
theorem Upto.nil (next : HandlerRef) :
  Upto [] next .none .none
  := by
  constructor
  case once => exact fun _ => Nat.zero_le 1
  case balanced | delivered => exact fun _ => rfl
  case told => rfl
  case delivers => simp [Delivery.handler?]
  case orderly => simp [Orderly]
  case addressed => simp [Addressed]
  all_goals simp

end Story

end SymbolIndex
