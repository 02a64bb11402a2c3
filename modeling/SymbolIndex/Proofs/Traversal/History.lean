import Mathlib.Data.List.Basic
import SymbolIndex.Traversal

/-!
# Histories of a traversal

A play that is run leaves a history: the items that it has handed over, each with the answer that
it was given. What an applier makes of items can be said without any library: it replies to them
one after the other, up to the first reply that ends its part.
-/

namespace SymbolIndex

variable {ρ α : Type}

/-- The play hands over the items of a history if it is answered as the history says, and then
returns. -/
inductive Play.Runs : Play α → List (α × Bool) → Bool → Prop where
  | finish (complete : Bool) : Runs (.finish complete) [] complete
  | deliver {a : α} {next : Bool → Play α} {answer : Bool} {history : List (α × Bool)}
      {complete : Bool} (h : (next answer).Runs history complete) :
      Runs (.deliver a next) ((a, answer) :: history) complete

/-- The reply ends the part of the applier. -/
def Reply.ends : Reply → Bool
  | .proceed => false
  | .stop => true
  | .panic _ => true

namespace Applier

/-- The replies to items, one after the other. -/
def replies (f : Applier ρ α) : List α → ρ → List Reply
  | [], _ => []
  | a :: as, r => (f a r).1 :: f.replies as (f a r).2

/-- The state after items, one after the other. -/
def after (f : Applier ρ α) (items : List α) (r : ρ) : ρ :=
  items.foldl (fun r a => (f a r).2) r

/-- The number of items before the first one at which the applier stops or panics. -/
def proceeds (f : Applier ρ α) (items : List α) (r : ρ) : Nat :=
  (f.replies items r).findIdx Reply.ends

/-- The reply with which the applier stops or panics, if it does. -/
def last? (f : Applier ρ α) (items : List α) (r : ρ) : Option Reply :=
  (f.replies items r)[f.proceeds items r]?

/-- The applier with a note of each item that it is run on. -/
def noted (f : Applier ρ α) : Applier (List α × ρ) α := fun a (notes, r) =>
  ((f a r).1, notes ++ [a], (f a r).2)

variable (f : Applier ρ α) (a : α) (as : List α) (r : ρ)

@[simp]
theorem after_cons :
  f.after (a :: as) r = f.after as (f a r).2
  := rfl

/-! ### The first item -/

variable {f a r}

theorem proceeds_of_ends (h : (f a r).1.ends = true) :
  f.proceeds (a :: as) r = 0
  := by
  simp [proceeds, replies, List.findIdx_cons, h]

theorem proceeds_of_proceed (h : (f a r).1.ends = false) :
  f.proceeds (a :: as) r = f.proceeds as (f a r).2 + 1
  := by
  simp [proceeds, replies, List.findIdx_cons, h]

theorem last?_of_ends (h : (f a r).1.ends = true) :
  f.last? (a :: as) r = some (f a r).1
  := by
  rw [last?, proceeds_of_ends as h]
  rfl

theorem last?_of_proceed (h : (f a r).1.ends = false) :
  f.last? (a :: as) r = f.last? as (f a r).2
  := by
  rw [last?, proceeds_of_proceed as h]
  rfl

/-! ### Maps of states -/

section

variable {ρ' : Type} (f : Applier ρ α) (g : ρ → ρ') (f' : Applier ρ' α)
    (h : ∀ a r, f' a (g r) = ((f a r).1, g (f a r).2))

include h

theorem replies_map (r : ρ) :
  f'.replies as (g r) = f.replies as r
  := by
  induction as generalizing r with
  | nil => rfl
  | cons a as ih => simp [replies, h, ih]

theorem after_map (r : ρ) :
  f'.after as (g r) = g (f.after as r)
  := by
  induction as generalizing r with
  | nil => rfl
  | cons a as ih => simp [h, ih]

theorem proceeds_map (r : ρ) :
  f'.proceeds as (g r) = f.proceeds as r
  := by
  rw [proceeds, replies_map as f g f' h, proceeds]

theorem last?_map (r : ρ) :
  f'.last? as (g r) = f.last? as r
  := by
  rw [last?, replies_map as f g f' h, proceeds_map as f g f' h, last?]

end

/-! ### Notes -/

variable (f r)

theorem after_noted (notes : List α) :
  f.noted.after as (notes, r) = (notes ++ as, f.after as r)
  := by
  induction as generalizing notes r with
  | nil => simp [after]
  | cons a as ih => simp [noted, ih]

theorem proceeds_noted (notes : List α) :
  f.noted.proceeds as (notes, r) = f.proceeds as r
  := (proceeds_map as f.noted Prod.snd f (fun _ _ => rfl) (notes, r)).symm

theorem last?_noted (notes : List α) :
  f.noted.last? as (notes, r) = f.last? as r
  := (last?_map as f.noted Prod.snd f (fun _ _ => rfl) (notes, r)).symm

end Applier

end SymbolIndex
