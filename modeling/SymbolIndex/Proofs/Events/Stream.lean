import Mathlib.Logic.Relation
import SymbolIndex.Proofs.Events.Serving

/-!
# Streams of batches

A stream is what matters of a store to something that gathers the batches of its handler: what
has been received, the names of the units, and whether the store listens. One function says what a
stream is after each turn that the store can take. As long as a store that listens does not stop,
the names that it began with, without those that have been reported to be removed, are the names
of its units.
-/

namespace SymbolIndex

/-- A batch in which the same has happened to all units. -/
def EventBatch.telling (isInitial : Bool) (kind : UnitEventKind) (units : List String) :
    EventBatch where
  isInitial := isInitial
  events := units.map fun u => ⟨some kind, u⟩

/-- Batches that tell of the removal of units, one by one. -/
def EventBatch.removals (units : List String) : List EventBatch :=
  units.map fun u => .telling false .removed [u]

structure Stream where
  /-- The batches that have been received, first one first. -/
  received : List EventBatch
  /-- The names of the units, in the order of the store. -/
  names : List String
  listening : Bool
  /-- The batch that is still to be delivered. -/
  pending : Option EventBatch

namespace Stream

/-- With a batch more. -/
def add (t : Stream) (batches : List EventBatch) : Stream :=
  { t with received := t.received ++ batches }

/-- The stream after a turn of the store. -/
def after (t : Stream) : Turn → Stream
  | .rest => t
  | .discarded unit =>
    if unit ∈ t.names then
      { t.add (if t.listening then [.telling false .removed [unit]] else []) with
        names := t.names.filter fun u => u != unit }
    else t
  | .began true => { t.add [.telling true .added t.names] with listening := true, pending := none }
  | .began false => { t with listening := true, pending := some (.telling true .added t.names) }
  | .stopped => { t.add t.pending.toList with listening := false, pending := none }
  | .caughtUp => { t.add t.pending.toList with pending := none }

/-- A turn that a store can take. A store that listens does not begin to listen once more. -/
def Step (allowed : Stream → Turn → Prop) (t t' : Stream) : Prop :=
  ∃ r, allowed t r ∧ (∀ wait, r = .began wait → t.listening = false) ∧ t' = t.after r

/-- Any number of turns. -/
abbrev Leads (allowed : Stream → Turn → Prop) : Stream → Stream → Prop :=
  Relation.ReflTransGen (Step allowed)

variable {t t' t'' : Stream}

theorem after_caughtUp_of_none (h : t.pending = none) :
  t.after .caughtUp = t
  := by
  cases t
  simp_all [after, add]

/-! ### Listening -/

/-- The store does not stop to listen. -/
def Keen (_ : Stream) (r : Turn) : Prop := r ≠ .stopped

/-- The removal of units is told one by one, and the others stay. -/
structure Replays (t t' : Stream) (removed : List String) : Prop where
  received : t'.received = t.received ++ EventBatch.removals removed
  names : t'.names = t.names.filter fun u => u ∉ removed
  listening : t'.listening = true
  pending : t'.pending = t.pending

theorem Replays.refl (h : t.listening = true) :
  t.Replays t []
  := by
  constructor <;> simp [EventBatch.removals, h]

/-- A turn more. If it is not of the same kind, what was still to be delivered is. -/
theorem Replays.step {removed : List String} (h : t.Replays t' removed) (hstep : Step Keen t' t'') :
  (∃ more, t.Replays t'' (removed ++ more)) ∨ t'' = t'.after .caughtUp
  := by
  obtain ⟨r, hkeen, hbegan, rfl⟩ := hstep
  cases r with
  | rest => exact .inl ⟨[], by simpa [after] using h⟩
  | discarded unit =>
      left
      by_cases hunit : unit ∈ t'.names
      · refine ⟨[unit], ?_⟩
        constructor
        · simp [after, hunit, add, h.listening, h.received, EventBatch.removals]
        · rw [after, if_pos hunit, h.names, List.filter_filter]
          apply List.filter_congr
          intro u _
          by_cases hu : u = unit <;> simp [hu]
        · simp [after, hunit, add, h.listening]
        · simp [after, hunit, add, h.pending]
      · exact ⟨[], by simpa [after, hunit] using h⟩
  | began wait =>
      have hlistening := hbegan wait rfl
      rw [h.listening] at hlistening
      cases hlistening
  | stopped => exact absurd rfl hkeen
  | caughtUp => exact .inr rfl

/-- A store that listens and does not stop tells the removal of units, and nothing else when
nothing was still to be delivered. -/
theorem Leads.replays (h : Leads Keen t t') (hlistening : t.listening = true)
    (hpending : t.pending = none) :
  ∃ removed, t.Replays t' removed
  := by
  induction h with
  | refl => exact ⟨[], .refl hlistening⟩
  | tail _ hstep ih =>
      obtain ⟨removed, hreplays⟩ := ih
      rcases hreplays.step hstep with ⟨more, hmore⟩ | rfl
      · exact ⟨removed ++ more, hmore⟩
      · rw [after_caughtUp_of_none (hreplays.pending.trans hpending)]
        exact ⟨removed, hreplays⟩

/-- What was still to be delivered comes at some point, or not yet. -/
theorem Leads.defers (h : Leads Keen t t') (hlistening : t.listening = true) :
  (∃ earlier, t.Replays t' earlier)
    ∨ ∃ between earlier later, t.Replays between earlier
      ∧ (between.after .caughtUp).Replays t' later
  := by
  induction h with
  | refl => exact .inl ⟨[], .refl hlistening⟩
  | tail _ hstep ih =>
      -- Nothing is pending any more after the turn that delivers, so that it comes only once.
      rcases ih with ⟨earlier, hreplays⟩ | ⟨between, earlier, later, hearlier, hlater⟩
      · rcases hreplays.step hstep with ⟨more, hmore⟩ | rfl
        · exact .inl ⟨earlier ++ more, hmore⟩
        · exact .inr ⟨_, earlier, [], hreplays, .refl hreplays.listening⟩
      · rcases hlater.step hstep with ⟨more, hmore⟩ | rfl
        · exact .inr ⟨between, earlier, later ++ more, hearlier, hmore⟩
        · rw [after_caughtUp_of_none hlater.pending]
          exact .inr ⟨between, earlier, later, hearlier, hlater⟩

/-- The store does not stop to listen, and no unit is discarded. -/
def Calm (t : Stream) (r : Turn) : Prop :=
  r ≠ .stopped ∧ ∀ unit, r = .discarded unit → unit ∉ t.names

/-- Nothing is told of what is not the removal of a unit. -/
theorem Leads.calm (h : Leads Calm t t') (hlistening : t.listening = true)
    (hpending : t.pending = none) :
  t' = t
  := by
  induction h with
  | refl => rfl
  | tail _ hstep ih =>
      subst ih
      obtain ⟨r, ⟨hkeen, hdiscards⟩, hbegan, rfl⟩ := hstep
      cases r with
      | rest => rfl
      | discarded unit => exact if_neg (hdiscards unit rfl)
      | began wait =>
          have hsilent := hbegan wait rfl
          rw [hlistening] at hsilent
          cases hsilent
      | stopped => exact absurd rfl hkeen
      | caughtUp => exact after_caughtUp_of_none hpending

end Stream

end SymbolIndex
