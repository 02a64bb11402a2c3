import Mathlib.Logic.Function.Basic
import SymbolIndex.Archive.Ledger
import SymbolIndex.Proofs.Table

/-!
# Books

Books say of each kind of object which objects are open, in the order in which they were opened,
and for which directory each one is counted. They also say how many objects of a kind have been
created and disposed of for a directory. In sound books the two agree, and opening an object and
disposing of it keeps them sound.
-/

namespace SymbolIndex

/-- The kinds of objects that are counted. -/
inductive ObjectKind where
  | store
  | record
  | unit
  | error
deriving DecidableEq

/-- The count of a kind. -/
def Tally.count (t : Tally) : ObjectKind → Count
  | .store => t.stores
  | .record => t.recordReaders
  | .unit => t.unitReaders
  | .error => t.errors

/-- Changes the count of a kind. -/
def Tally.change (k : ObjectKind) (f : Count → Count) (t : Tally) : Tally :=
  match k with
  | .store => { t with stores := f t.stores }
  | .record => { t with recordReaders := f t.recordReaders }
  | .unit => { t with unitReaders := f t.unitReaders }
  | .error => { t with errors := f t.errors }

theorem Tally.count_change (k : ObjectKind) (f : Count → Count) (t : Tally) (j : ObjectKind) :
  (t.change k f).count j = if j = k then f (t.count j) else t.count j
  := by
  cases j <;> cases k <;> rfl

@[simp]
theorem Tally.handlersFinalized_change (k : ObjectKind) (f : Count → Count) (t : Tally) :
  (t.change k f).handlersFinalized = t.handlersFinalized
  := by
  cases k <;> rfl

theorem Tally.balanced_iff (t : Tally) :
  t.balanced = true ↔ ∀ k, (t.count k).created = (t.count k).disposed
  := by
  constructor
  · intro h k
    simp only [balanced, Count.balanced, Bool.and_eq_true, beq_iff_eq] at h
    cases k <;> simp [count, h]
  · intro h
    simp only [balanced, Count.balanced, Bool.and_eq_true, beq_iff_eq]
    exact ⟨⟨⟨h .store, h .record⟩, h .unit⟩, h .error⟩

/-- What is open, by references and directories. -/
abbrev Rolls := ObjectKind → List (Nat × Path)

namespace Rolls

/-- One more object. -/
def add (r : Rolls) (k : ObjectKind) (ref : Nat) (directory : Path) : Rolls :=
  Function.update r k (r k ++ [(ref, directory)])

/-- Without the object of a reference. -/
def remove (r : Rolls) (k : ObjectKind) (ref : Nat) : Rolls :=
  Function.update r k ((r k).filter fun e => e.1 != ref)

/-- How many objects are open for a directory. -/
def openOn (r : Rolls) (k : ObjectKind) (directory : Path) : Nat :=
  (r k).countP fun e => e.2 = directory

variable (r : Rolls) (k : ObjectKind) {ref : Nat} (directory : Path)

/-- An object that has just been added is the one that is removed. -/
theorem remove_add (fresh : ∀ e ∈ r k, e.1 ≠ ref) :
  (r.add k ref directory).remove k ref = r
  := by
  have hothers : (r k).filter (fun e => e.1 != ref) = r k := by
    rw [List.filter_eq_self]
    intro e he
    rw [bne_iff_ne]
    exact fresh e he
  simp [add, remove, hothers]

theorem openOn_add (j : ObjectKind) (d : Path) :
  (r.add k ref directory).openOn j d
    = r.openOn j d + if j = k ∧ d = directory then 1 else 0
  := by
  by_cases hj : j = k
  · subst hj
    by_cases hd : d = directory
    · simp [add, openOn, hd]
    · simp [add, openOn, hd, Ne.symm hd]
  · simp [add, openOn, hj]

variable {r k directory} in
theorem openOn_remove (distinct : ((r k).map Prod.fst).Nodup)
    (h : (r k).find? (fun e => e.1 == ref) = some (ref, directory)) (j : ObjectKind) (d : Path) :
  r.openOn j d = (r.remove k ref).openOn j d + if j = k ∧ d = directory then 1 else 0
  := by
  by_cases hj : j = k
  · subst hj
    have hcount := (perm_of_find distinct h).countP_eq (fun e => decide (e.2 = d))
    by_cases hd : d = directory
    · simpa [remove, openOn, hd] using hcount
    · simpa [remove, openOn, hd, Ne.symm hd] using hcount
  · simp [remove, openOn, hj]

end Rolls

structure Books where
  /-- The reference of the next object. -/
  next : ObjectKind → Nat
  rolls : Rolls
  count : Path → ObjectKind → Count

namespace Books

/-- Changes the count of a kind for a directory. -/
def enter (b : Books) (k : ObjectKind) (directory : Path) (f : Count → Count) : Books :=
  { b with count := fun d j => if d = directory ∧ j = k then f (b.count d j) else b.count d j }

/-- Opens an object. -/
def create (b : Books) (k : ObjectKind) (directory : Path) : Books :=
  { b with
    next := Function.update b.next k (b.next k + 1)
    rolls := b.rolls.add k (b.next k) directory }.enter k directory Count.create

/-- Disposes of an object that is counted for a directory. -/
def dispose (b : Books) (k : ObjectKind) (ref : Nat) (directory : Path) : Books :=
  { b with rolls := b.rolls.remove k ref }.enter k directory Count.dispose

/-- What has been created and not been disposed of is open. -/
structure Sound (b : Books) : Prop where
  fresh : ∀ k, ∀ e ∈ b.rolls k, e.1 < b.next k
  distinct : ∀ k, ((b.rolls k).map Prod.fst).Nodup
  agrees : ∀ d k, (b.count d k).created = (b.count d k).disposed + b.rolls.openOn k d

variable {b : Books} {k : ObjectKind} {ref : Nat} {directory : Path}

theorem Sound.create (hb : b.Sound) (k : ObjectKind) (directory : Path) :
  (b.create k directory).Sound
  := by
  constructor
  · intro j e he
    by_cases hj : j = k
    · subst hj
      simp only [Books.create, enter, Rolls.add, Function.update_self, List.mem_append,
        List.mem_singleton] at he ⊢
      rcases he with he | rfl
      · have := hb.fresh j e he
        omega
      · simp
    · simp only [Books.create, enter, Rolls.add, Function.update_of_ne hj] at he ⊢
      exact hb.fresh j e he
  · intro j
    by_cases hj : j = k
    · subst hj
      simp only [Books.create, enter, Rolls.add, Function.update_self, List.map_append,
        List.map_cons, List.map_nil]
      rw [List.nodup_append]
      refine ⟨hb.distinct j, by simp, ?_⟩
      intro r hr r' hr'
      obtain ⟨e, he, rfl⟩ := List.mem_map.mp hr
      obtain rfl : r' = b.next j := by simpa using hr'
      have := hb.fresh j e he
      omega
    · simp only [Books.create, enter, Rolls.add, Function.update_of_ne hj]
      exact hb.distinct j
  · intro d j
    have hagrees := hb.agrees d j
    simp only [Books.create, enter, Rolls.openOn_add]
    by_cases hjd : d = directory ∧ j = k
    · simp [hjd, Count.create] at hagrees ⊢
      omega
    · rw [if_neg hjd, if_neg (by rwa [and_comm] at hjd)]
      simpa using hagrees

theorem Sound.dispose (hb : b.Sound)
    (h : (b.rolls k).find? (fun e => e.1 == ref) = some (ref, directory)) :
  (b.dispose k ref directory).Sound
  := by
  have hsublist : ∀ j, ((b.dispose k ref directory).rolls j).Sublist (b.rolls j) := by
    intro j
    by_cases hj : j = k
    · subst hj
      simp [Books.dispose, enter, Rolls.remove]
    · simp [Books.dispose, enter, Rolls.remove, Function.update_of_ne hj]
  constructor
  · intro j e he
    exact hb.fresh j e ((hsublist j).mem he)
  · intro j
    exact (hb.distinct j).sublist ((hsublist j).map Prod.fst)
  · intro d j
    have hagrees := hb.agrees d j
    rw [Rolls.openOn_remove (hb.distinct k) h] at hagrees
    simp only [Books.dispose, enter]
    by_cases hjd : d = directory ∧ j = k
    · simp [hjd, Count.dispose] at hagrees ⊢
      omega
    · rw [if_neg (by rwa [and_comm] at hjd)] at hagrees
      rw [if_neg hjd]
      simpa using hagrees

end Books

end SymbolIndex
