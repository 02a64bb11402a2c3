import SymbolIndex.Proofs.Accounts.Accesses
import SymbolIndex.Proofs.Run.Scene

/-!
# What a client holds and what the books say

The objects that are open in the archive are the ones that the client holds, each for the directory
of its store. A use of a directory keeps it so, and changes nothing of what is counted elsewhere.
-/

namespace SymbolIndex

open Archive

variable {α β : Type} {s : Scene}

/-- Everything that is held is of a library with the archive behind it. -/
structure Holdings.Honest (h : Holdings) : Prop where
  stores : ∀ e ∈ h.stores, e.store.library.Honest
  records : ∀ r ∈ h.records, r.library.Honest
  units : ∀ u ∈ h.units, u.library.Honest
  options : ∀ o ∈ h.options, o.library.Honest

/-- The books of the archive are sound and say what the client holds, and the handlers are those
that it has installed. -/
structure Scene.Sound (s : Scene) : Prop where
  archive : s.2.Sound s.1.desk.handlers.next
  held : s.2.rolls = s.1.held
  handlers : ∀ d, s.2.handlersAt d = s.1.uses.count ⟨d, true⟩
  honest : s.1.Honest

theorem Library.withArchive_honest (l : Library Archive) (c : Convention) :
  (l.withArchive c).Honest
  := rfl

/-- The way from one scene to another keeps the books in agreement with what is held. It changes
what is counted for directories that have been used on the way. -/
def Scene.Leads (s s' : Scene) : Prop :=
  s.Sound → s'.Sound
    ∧ ∃ uses, s'.1.uses = s.1.uses ++ uses
      ∧ ∀ d, (∀ u ∈ uses, u.directory ≠ d) → s'.2.ledger.tally d = s.2.ledger.tally d

namespace Scene

instance : IsPreorder Scene Leads where
  refl s hs := ⟨hs, [], by simp, by simp⟩
  trans s s' s'' h h' hs := by
    obtain ⟨hs', uses, huses, helsewhere⟩ := h hs
    obtain ⟨hs'', uses', huses', helsewhere'⟩ := h' hs'
    refine ⟨hs'', uses ++ uses', by rw [huses', huses, List.append_assoc], ?_⟩
    intro d hd
    rw [helsewhere' d fun u hu => hd u (List.mem_append_right _ hu),
      helsewhere d fun u hu => hd u (List.mem_append_left _ hu)]

/-- What a use of a directory leaves behind. -/
structure Uses (u : Use) (s s' : Scene) : Prop where
  follows : Follows s'.1.desk.handlers.next u s'.1.held s.2 s'.2
  uses : s'.1.uses = s.1.uses
  honest : s'.1.Honest

/-- A use that is noted leads on. -/
theorem leads_of_uses {u : Use} {s' : Scene}
    (h : s.Sound → Uses u (s.1.note u, s.2) s') :
  Leads s s'
  := by
  intro hs
  have hu := h hs
  have huses : s'.1.uses = s.1.uses ++ [u] := hu.uses
  constructor
  · constructor
    · exact hu.follows.sound
    · exact hu.follows.rolls
    · intro d
      rw [hu.follows.handlers, hs.handlers, huses, List.count_append, List.count_singleton]
      simp
    · exact hu.honest
  · refine ⟨[u], huses, ?_⟩
    intro d hd
    apply hu.follows.elsewhere
    simpa using (hd u List.mem_cons_self).symm

end Scene

/-! ### Objects that are held -/

namespace Holdings

variable {h : Holdings}

/-- A store that is held is on the roll of what is held, for its directory. -/
theorem mem_of_store? {ref : StoreRef} {e : EventStore Archive} (he : h.store? ref = some e) :
  e ∈ h.stores ∧ h.held.Has .store e.store.ref e.store.directory
  := by
  have hroll : h.held .store = h.stores.map fun e => (e.store.ref, e.store.directory) := rfl
  exact Rolls.has_of_find? hroll he

theorem mem_of_record? {ref : RecordRef} {r : RecordReader Archive} (hr : h.record? ref = some r) :
  r ∈ h.records ∧ h.held.Has .record r.ref r.store.directory
  := by
  have hroll : h.held .record = h.records.map fun r => (r.ref, r.store.directory) := rfl
  exact Rolls.has_of_find? hroll hr

theorem mem_of_unit? {ref : UnitRef} {u : UnitReader Archive} (hu : h.unit? ref = some u) :
  u ∈ h.units ∧ h.held.Has .unit u.ref u.store.directory
  := by
  have hroll : h.held .unit = h.units.map fun u => (u.ref, u.store.directory) := rfl
  exact Rolls.has_of_find? hroll hu

/-- What is held under a reference has that reference. -/
theorem ref_of_store? {ref : StoreRef} {e : EventStore Archive} (he : h.store? ref = some e) :
  e.store.ref = ref
  := by simpa using List.find?_some he

theorem ref_of_record? {ref : RecordRef} {r : RecordReader Archive} (hr : h.record? ref = some r) :
  r.ref = ref
  := by simpa using List.find?_some hr

theorem ref_of_unit? {ref : UnitRef} {u : UnitReader Archive} (hu : h.unit? ref = some u) :
  u.ref = ref
  := by simpa using List.find?_some hu

theorem ref_of_option? {ref : OptionsRef} {o : Options Archive} (ho : h.option? ref = some o) :
  o.ref = ref
  := by simpa using List.find?_some ho

/-- Each store that is held has the archive behind its library. -/
theorem Honest.store (honest : h.Honest) {ref : StoreRef} {e : EventStore Archive}
    (he : h.store? ref = some e) :
  e.store.library.Honest
  := honest.stores e (List.mem_of_find?_eq_some he)

theorem Honest.record (honest : h.Honest) {ref : RecordRef} {r : RecordReader Archive}
    (hr : h.record? ref = some r) :
  r.library.Honest
  := honest.records r (List.mem_of_find?_eq_some hr)

theorem Honest.unit (honest : h.Honest) {ref : UnitRef} {u : UnitReader Archive}
    (hu : h.unit? ref = some u) :
  u.library.Honest
  := honest.units u (List.mem_of_find?_eq_some hu)

theorem Honest.option (honest : h.Honest) {ref : OptionsRef} {o : Options Archive}
    (ho : h.option? ref = some o) :
  o.library.Honest
  := honest.options o (List.mem_of_find?_eq_some ho)

end Holdings

namespace Scene

variable {d : Path} {k : ObjectKind} {ref : Nat}

/-- A use of the archive that opens and closes nothing. -/
theorem uses_of_calm {m : Access Archive α}
    (hm : m.Within (Calm s.1.desk.handlers.next k ref d)) (hs : s.Sound)
    (hopen : s.1.held.Has k ref d) :
  Uses ⟨d, false⟩ s (Scene.use m (fun _ h => h) s).2
  := by
  have hfollows := hm s.2 (hs.held ▸ hopen) hs.archive
  rw [hs.held] at hfollows
  have hstate : (Scene.use m (fun _ h => h) s).2 = (s.1, (m s.2).2) := by
    rw [use]
    rcases m s.2 with ⟨e | x, a⟩ <;> rfl
  rw [hstate]
  exact ⟨hfollows, rfl, hs.honest⟩

/-- A use of the archive that opens an object, which is kept. -/
theorem uses_of_opens {m : Access Archive α} {made : Nat → α → Prop}
    {keep : α → Holdings → Holdings}
    (hm : Access.Opens s.1.desk.handlers.next k d made m s.2) (hs : s.Sound)
    (hkeep : ∀ x, made (s.2.next k) x →
      (keep x s.1).desk = s.1.desk ∧ (keep x s.1).uses = s.1.uses
        ∧ (keep x s.1).held = s.1.held.add k (s.2.next k) d ∧ (keep x s.1).Honest) :
  Uses ⟨d, false⟩ s (Scene.use m keep s).2
  := by
  rw [use]
  rw [Access.Opens] at hm
  rcases hx : m s.2 with ⟨e | x, a⟩
  · rw [hx] at hm
    have hfollows := hm hs.archive
    rw [hs.held] at hfollows
    exact ⟨hfollows, rfl, hs.honest⟩
  · rw [hx] at hm
    obtain ⟨hmade, hopens⟩ := hm
    obtain ⟨hdesk, huses, hheld, honest⟩ := hkeep x hmade
    have hfollows := hopens hs.archive
    rw [hs.held, ← hheld, ← hdesk] at hfollows
    exact ⟨hfollows, huses, honest⟩

/-- A use that installs nothing can be noted. -/
theorem Sound.note (hs : s.Sound) (d : Path) :
  Scene.Sound (s.1.note ⟨d, false⟩, s.2)
  := by
  have honest := hs.honest
  refine ⟨hs.archive, hs.held, ?_,
    honest.stores, honest.records, honest.units, honest.options⟩
  intro d'
  simp [Holdings.note, hs.handlers]

end Scene

/-! ### The event desk -/

namespace Desk

@[simp]
theorem next_call (d : Desk) (c : HandlerCall) :
  (d.call c).handlers.next = d.handlers.next
  := by
  cases c with
  | deliver h n =>
      simp only [call]
      split
      case h_1 sink _ => cases sink <;> rfl
      case h_2 => rfl
  | release h => rfl

/-- To call handlers installs none. -/
@[simp]
theorem next_process (d : Desk) (calls : List HandlerCall) :
  (d.process calls).handlers.next = d.handlers.next
  := by
  induction calls generalizing d with
  | nil => rfl
  | cons c calls ih => exact (ih (d.call c)).trans (d.next_call c)

@[simp]
theorem handlers_letGo (d : Desk) (feed : Option Nat) :
  (d.letGo feed).handlers = d.handlers
  := by
  cases feed <;> rfl

end Desk

/-- What a use of the archive and of the event desk does that neither opens nor closes anything and
installs no handler. -/
def Archive.CalmAtDesk (k : ObjectKind) (ref : Nat) (d : Path) (x y : Desk × Archive) : Prop :=
  y.1.handlers.next = x.1.handlers.next ∧ Calm x.1.handlers.next k ref d x.2 y.2

instance (k : ObjectKind) (ref : Nat) (d : Path) :
    IsPreorder (Desk × Archive) (CalmAtDesk k ref d) where
  refl x := ⟨rfl, refl_of _ x.2⟩
  trans x y z h h' := by
    refine ⟨h'.1.trans h.1, trans_of _ h.2 ?_⟩
    rw [← h.1]
    exact h'.2

/-- A use of the archive and of the event desk that opens and closes nothing. -/
theorem Scene.uses_of_desk {d : Path} {k : ObjectKind} {ref : Nat} {m : Access (Desk × Archive) α}
    (hm : m.Within (CalmAtDesk k ref d)) (hs : s.Sound) (hopen : s.1.held.Has k ref d) :
  Uses ⟨d, false⟩ s (Scene.useDesk m (fun _ h => h) s).2
  := by
  obtain ⟨hdesk, hcalm⟩ := hm (s.1.desk, s.2)
  have hfollows := hcalm (hs.held ▸ hopen) hs.archive
  rw [hs.held, ← hdesk] at hfollows
  have hstate : (Scene.useDesk m (fun _ h => h) s).2
      = ({ s.1 with desk := (m (s.1.desk, s.2)).2.1 }, (m (s.1.desk, s.2)).2.2) := by
    rw [useDesk]
    rcases m (s.1.desk, s.2) with ⟨e | x, desk, a⟩ <;> rfl
  rw [hstate]
  have honest := hs.honest
  exact ⟨hfollows, rfl, honest.stores, honest.records, honest.units, honest.options⟩

/-! ### Operations on a store -/

namespace EventStore

variable {e : EventStore Archive} {d : Path}

/-- An operation whose calls are made at the event desk is calm if it is calm in the archive. -/
theorem calling_calm {k : ObjectKind} {ref : Nat} {f : Archive → List HandlerCall × Archive}
    (hf : ∀ n a, Calm n k ref d a (f a).2) (x : Desk × Archive) :
  CalmAtDesk k ref d x (calling f x)
  := ⟨Desk.next_process _ _, hf _ x.2⟩

section

variable (honest : e.store.library.Honest)

include honest

theorem discardUnit_within (unit : String) :
  (e.discardUnit unit).Within (CalmAtDesk .store e.store.ref d)
  := by
  have hbackend : e.store.library.backend = Archive.backend := honest
  refine Access.within_bind (Access.within_terminated unit) ?_
  intro octets
  apply calling_calm
  intro n a hopen
  obtain ⟨x, hx, rfl⟩ := store_of_has hopen
  rw [hbackend]
  apply quiet_discardUnit hx

theorem stop_within :
  (Access.change e.stop).Within (CalmAtDesk .store e.store.ref d)
  := by
  have hbackend : e.store.library.backend = Archive.backend := honest
  apply calling_calm
  intro n a hopen
  obtain ⟨x, hx, rfl⟩ := store_of_has hopen
  rw [hbackend]
  apply quiet_stopListening hx

theorem background_within :
  (Access.change e.background).Within (CalmAtDesk .store e.store.ref d)
  := by
  have hbackend : e.store.library.backend = Archive.backend := honest
  apply calling_calm
  intro n a hopen
  obtain ⟨x, hx, rfl⟩ := store_of_has hopen
  rw [hbackend]
  apply quiet_background hx

/-- To begin to listen opens nothing, and an error object is disposed of. -/
theorem start_within (wait : Bool) :
  (e.start wait).Within (CalmAtDesk .store e.store.ref d)
  := by
  have hbackend : e.store.library.backend = Archive.backend := honest
  intro s
  constructor
  · apply Desk.next_process
  · intro hopen
    obtain ⟨x, hx, rfl⟩ := store_of_has hopen
    have hsettles : Settles s.1.handlers.next x.directory s.2
        ((startListening e.store.ref wait s.2).1.error,
          (startListening e.store.ref wait s.2).2) := startListening_settles hx wait
    simp only [start, hbackend, Archive.backend]
    split
    · exact Library.quiet_releaseError honest hsettles
    · exact Library.quiet_failure honest _ hsettles

end

/-- The store is held, in agreement with the books. -/
structure Ready (e : EventStore Archive) (s : Scene) : Prop where
  sound : s.Sound
  mem : e ∈ s.1.stores
  held : s.1.held.Has .store e.store.ref e.store.directory

theorem Ready.honest (he : e.Ready s) :
  e.store.library.Honest
  := he.sound.honest.stores e he.mem

end EventStore

end SymbolIndex
