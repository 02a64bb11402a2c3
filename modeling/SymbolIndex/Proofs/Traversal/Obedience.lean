import SymbolIndex.Library.Listing
import SymbolIndex.Proofs.Traversal.Settlement

/-!
# Traversals of obedient libraries

A library that hands over the items of a list and stops when it is told to lets its applier see
the list up to the first item at which the applier ends its part. If the applier never panics,
the traversal is reported as stopped if there is such an item, and as completed if there is none.
-/

namespace SymbolIndex

variable {ρ σ α : Type}

namespace Applier

/-- The applier that never panics and proceeds as long as it is told to. -/
def calm (g : α → ρ → Bool × ρ) : Applier ρ α := fun a r =>
  (if (g a r).1 then .proceed else .stop, (g a r).2)

theorem last?_calm (g : α → ρ → Bool × ρ) (items : List α) (r : ρ) :
  (calm g).last? items r
    = if (calm g).proceeds items r < items.length then some .stop else none
  := by
  induction items generalizing r with
  | nil => rfl
  | cons a items ih =>
      cases hproceed : (g a r).1 with
      | true =>
          have hends : (calm g a r).1.ends = false := by simp [calm, hproceed, Reply.ends]
          rw [last?_of_proceed items hends, proceeds_of_proceed items hends, ih]
          simp
      | false =>
          have hends : (calm g a r).1.ends = true := by simp [calm, hproceed, Reply.ends]
          rw [last?_of_ends items hends, proceeds_of_ends items hends]
          simp [calm, hproceed]

/-- What an applier of a library does, with a note of each item that it is run on. -/
def recorded (g : α → ρ × σ → Bool × ρ × σ) :
    α → (List α × ρ) × σ → Bool × (List α × ρ) × σ := fun a ((notes, x), s) =>
  match g a (x, s) with
  | (proceed, x, s) => (proceed, (notes ++ [a], x), s)

theorem proceeds_recorded (g : α → ρ × σ → Bool × ρ × σ) (items notes : List α) (x : ρ) (s : σ) :
  (calm (recorded g)).proceeds items ((notes, x), s) = (calm g).proceeds items (x, s)
  := by
  have hmap := proceeds_map items (calm (recorded g)) (fun r => (r.1.2, r.2)) (calm g)
    (fun _ _ => rfl) ((notes, x), s)
  rw [← hmap]

theorem after_recorded (g : α → ρ × σ → Bool × ρ × σ) (items notes : List α) (x : ρ) (s : σ) :
  (calm (recorded g)).after items ((notes, x), s)
    = ((notes ++ items, ((calm g).after items (x, s)).1), ((calm g).after items (x, s)).2)
  := by
  have hmap := after_map items (calm g).noted (fun r => ((r.1, r.2.1), r.2.2))
    (calm (recorded g)) (fun _ _ => rfl) (notes, x, s)
  rw [after_noted] at hmap
  apply hmap

end Applier

/-- An obedient library hands over nothing after the first item at which the applier ends its
part, and knows that it has handed over everything if there is none. -/
theorem Play.run_each (c : Convention) (f : Applier ρ α) (items : List α) (r : ρ) :
  (each items).run (c.callback (Progress.dispatch f)) ({}, r)
    = (decide (items.length ≤ f.proceeds items r), .ofHistory (f.last? items r) 0,
        f.after (items.take (f.proceeds items r + 1)) r)
  := by
  induction items generalizing r with
  | nil => rfl
  | cons a items ih =>
      have hstep := Progress.dispatch_fresh f a r
      cases hends : (f a r).1.ends with
      | false =>
          rw [hends, Progress.ofHistory_of_proceed hends] at hstep
          rw [Applier.proceeds_of_proceed items hends, Applier.last?_of_proceed items hends]
          simp [each, run, hstep, ih]
      | true =>
          rw [hends] at hstep
          rw [Applier.proceeds_of_ends items hends, Applier.last?_of_ends items hends]
          simp [each, run, hstep, Applier.after]

/-- How the traversal of a list ends when the applier has been run on some items without stopping:
there may be one more, at which it stops. -/
def Outcome.after (proceeds length : Nat) : Outcome :=
  if proceeds < length then .stopped else .completed

/-- An applier that never panics is run on the items of an obedient library up to the first one at
which it stops. -/
theorem drive_each (c : Convention) (operation : String) (g : α → ρ → Bool × ρ) (items : List α)
    (r : ρ) :
  drive c operation (.each items) (.calm g) r
    = (.ok (.after ((Applier.calm g).proceeds items r) items.length),
        (Applier.calm g).after (items.take ((Applier.calm g).proceeds items r + 1)) r)
  := by
  rw [drive, Play.run_each]
  simp only [Progress.result_ofHistory, Applier.last?_calm, Outcome.after]
  by_cases hstopped : (Applier.calm g).proceeds items r < items.length
  · have hcomplete : ¬ items.length ≤ (Applier.calm g).proceeds items r := by omega
    simp [hstopped, hcomplete, settlement]
  · have hcomplete : items.length ≤ (Applier.calm g).proceeds items r := by omega
    simp [hstopped, hcomplete, settlement]

/-- However an applier ends its part, a traversal of an obedient library ends without an error. -/
theorem drive_each_ne_error (c : Convention) (operation : String) (items : List α)
    (f : Applier ρ α) (r : ρ) (err : Error) :
  (drive c operation (.each items) f r).1 ≠ .error (.error err)
  := by
  rw [drive, Play.run_each]
  simp only [Progress.result_ofHistory]
  induction items generalizing r with
  | nil =>
      intro h
      cases h
  | cons a items ih =>
      cases hends : (f a r).1.ends with
      | false =>
          rw [Applier.proceeds_of_proceed items hends, Applier.last?_of_proceed items hends]
          simpa using ih (f a r).2
      | true =>
          rw [Applier.proceeds_of_ends items hends, Applier.last?_of_ends items hends]
          intro h
          cases hreply : (f a r).1 with
          | proceed => simp [hreply, Reply.ends] at hends
          | stop =>
              rw [hreply] at h
              cases h
          | panic message =>
              rw [hreply] at h
              cases h

end SymbolIndex
