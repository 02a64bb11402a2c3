import SymbolIndex.Proofs.Archive.Conventions
import SymbolIndex.Proofs.Isolation.OpenStores

/-!
# What is handed out to visitors that go on

A visitor that goes on at each item is given all items of a handout, by either convention, and the
handout is completed.
-/

namespace SymbolIndex

variable {ρ α : Type}

theorem Applier.proceeds_of_goesOn {g : α → ρ → Bool × ρ} (hg : ∀ a r, (g a r).1 = true)
    (items : List α) (r : ρ) :
  (calm g).proceeds items r = items.length
  := by
  induction items generalizing r with
  | nil => rfl
  | cons a items ih =>
      have hends : (calm g a r).1.ends = false := by simp [calm, hg, Reply.ends]
      rw [proceeds_of_proceed items hends, ih, List.length_cons]

/-- Through a library of either convention the handout gives a visitor that goes on the items of a
list, and is completed. -/
def Handout.Delivers (l : Library Archive) (t : Handout α) (a : Archive) (items : List α) : Prop :=
  ∀ (ρ : Type) (g : α → ρ × Archive → Bool × ρ × Archive), (∀ item s, (g item s).1 = true) →
    ∀ (x : ρ) (c : Convention),
      let (result, (seen, _), _) :=
        t.apply (l.withArchive c) (.calm (Applier.recorded g)) (([], x), a)
      result = .ok .completed ∧ seen = items

theorem Handout.delivers (l : Library Archive) {t : Handout α} {a : Archive} {items : List α}
    (h : t.items a = items) :
  t.Delivers l a items
  := by
  intro ρ g hg x c
  obtain rfl := h
  have hrecorded : ∀ item s, (Applier.recorded (ρ := ρ) (σ := Archive) g item s).1 = true :=
    fun item s => hg item (s.1.2, s.2)
  rw [t.apply_withArchive, Applier.proceeds_of_goesOn hrecorded, Applier.after_recorded,
    List.take_of_length_le (Nat.le_succ _), Outcome.after, if_neg (Nat.lt_irrefl _)]
  exact ⟨rfl, rfl⟩

@[simp]
theorem Library.identity_withArchive (l : Library Archive) (c : Convention) :
  (l.withArchive c).identity = l.identity
  := rfl

namespace RecordReader

/-- The same reader in its library when that calls back by a convention. -/
def calling (r : RecordReader Archive) (c : Convention) : RecordReader Archive :=
  r.through (r.library.withArchive c)

@[simp]
theorem library_through (r : RecordReader Archive) (l : Library Archive) :
  (r.through l).library = l
  := rfl

@[simp]
theorem library_calling (r : RecordReader Archive) (c : Convention) :
  (r.calling c).library = r.library.withArchive c
  := rfl

@[simp]
theorem ref_calling (r : RecordReader Archive) (c : Convention) :
  (r.calling c).ref = r.ref
  := rfl

variable {r : RecordReader Archive} {entry : RecordEntry} {s : Scene}

/-- A reader that is open is the same in its own convention. -/
theorem OpenIn.calling_own (h : r.OpenIn entry s) :
  r.calling r.library.convention = r
  := by
  have hlibrary : r.library.withArchive r.library.convention = r.library := by
    rw [Library.withArchive, ← h.honest]
  rw [calling, hlibrary]
  rfl

theorem OpenIn.delivers_all (h : r.OpenIn entry s) (l : Library Archive) :
  (Handout.occurrences r).Delivers l s.2 (entry.occurrenceViews r.ref)
  := by
  apply Handout.delivers
  rw [Handout.items, h.hasRecord.2.occurrencesOf_eq]
  exact List.filter_eq_self.mpr fun _ _ => rfl

end RecordReader

namespace UnitReader

/-- The same reader in its library when that calls back by a convention. -/
def calling (u : UnitReader Archive) (c : Convention) : UnitReader Archive :=
  u.through (u.library.withArchive c)

end UnitReader

end SymbolIndex
