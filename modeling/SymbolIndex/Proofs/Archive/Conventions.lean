import SymbolIndex.Proofs.Archive.Handout
import SymbolIndex.Proofs.Search.Obedience

/-!
# Conventions of the archive

What a caller does with an item is a visit. It may use the archive in any way, it may run other
handouts and searches and visit their items, and in the end it answers. A visit is run through a
library, which calls back by some convention, and it has a meaning that knows of no library. The
two agree, so the conventions cannot be told apart.
-/

namespace SymbolIndex

variable {ρ α β : Type}

/-- What is done with an item, up to an answer. The visitor has a state of its own. -/
inductive Visit (ρ : Type) : Type → Type 1 where
  | answer {β : Type} (b : β) : Visit ρ β
  /-- Uses the state and the archive, and goes on with what comes of it. -/
  | act {β γ : Type} (f : ρ × Archive → γ × ρ × Archive) (next : γ → Visit ρ β) : Visit ρ β
  /-- Visits the items of a handout, as long as the answer is to proceed, and goes on with how
  that has ended. -/
  | handOut {β γ : Type} (t : Handout γ) (visit : γ → Visit ρ Bool)
      (next : Except Halt Outcome → Visit ρ β) : Visit ρ β
  /-- Searches a record, and goes on with how that has ended. -/
  | search {β : Type} (r : RecordReader Archive) (filter : SymbolView → Visit ρ Verdict)
      (receive : SymbolView → Visit ρ Unit) (next : Except Halt Outcome → Visit ρ β) : Visit ρ β

namespace Visit

/-- A visit through a library. -/
def run {β : Type} (l : Library Archive) : Visit ρ β → ρ × Archive → β × ρ × Archive
  | answer b, s => (b, s)
  | act f next, s =>
    match f s with
    | (c, s) => (next c).run l s
  | handOut t visit next, s =>
    match t.apply l (.calm fun item => (visit item).run l) s with
    | (result, s) => (next result).run l s
  | search r filter receive next, s =>
    let k : Client (ρ × Archive) SymbolView :=
      { filter := fun v => (filter v).run l, receive := fun v s => ((receive v).run l s).2 }
    match (r.through l).search k.searcher s with
    | (result, s) => (next result).run l s

/-- What comes of a visit. A handout gives its items up to the first one at which it is told to
stop, a search goes through all symbols until it is told to stop, and neither is ever an
error. -/
def meaning {β : Type} : Visit ρ β → ρ × Archive → β × ρ × Archive
  | answer b, s => (b, s)
  | act f next, s =>
    match f s with
    | (c, s) => (next c).meaning s
  | handOut t visit next, (x, a) =>
    let f : Applier (ρ × Archive) _ := .calm fun item => (visit item).meaning
    let k := f.proceeds (t.items a) (x, t.begun a)
    (next (.ok (.after k (t.items a).length))).meaning
      (f.after ((t.items a).take (k + 1)) (x, t.begun a))
  | search r filter receive next, s =>
    let k : Client (ρ × Archive) SymbolView :=
      { filter := fun v => (filter v).meaning, receive := fun v s => ((receive v).meaning s).2 }
    match k.through (s.2.symbolsOf r.ref) s with
    | (stopped, s) => (next (.ok (if stopped then .stopped else .completed))).meaning s

end Visit

/-! ### Through a library -/

/-- A handout through a library gives an applier that never panics its items up to the first one
at which the applier stops, and is never an error. -/
theorem Handout.apply_withArchive (l : Library Archive) (c : Convention) (t : Handout α)
    (g : α → ρ × Archive → Bool × ρ × Archive) (x : ρ) (a : Archive) :
  let f : Applier (ρ × Archive) α := .calm g
  let k := f.proceeds (t.items a) (x, t.begun a)
  t.apply (l.withArchive c) f (x, a)
    = (.ok (.after k (t.items a).length), f.after ((t.items a).take (k + 1)) (x, t.begun a))
  := by
  obtain ⟨listing, hlisting, hconvention, hstart⟩ := t.listing_withArchive l c
  simp only [apply, hlisting, Listing.apply, hconvention, hstart]
  apply drive_each

/-- However an applier ends its part, a handout through a library ends without an error. -/
theorem Handout.apply_ne_error (l : Library Archive) (c : Convention) (t : Handout α)
    (f : Applier (ρ × Archive) α) (y : ρ × Archive) (err : Error) :
  (t.apply (l.withArchive c) f y).1 ≠ .error (.error err)
  := by
  obtain ⟨listing, hlisting, hconvention, hstart⟩ := t.listing_withArchive l c
  simp only [apply, hlisting, Listing.apply, hconvention, hstart]
  apply drive_each_ne_error

/-- A search through a library takes a client through the symbols of the record. -/
theorem RecordReader.search_withArchive (l : Library Archive) (c : Convention)
    (r : RecordReader Archive) (k : Client (ρ × Archive) SymbolView) (s : ρ × Archive) :
  (r.through (l.withArchive c)).search k.searcher s
    = (.ok (if (k.through (s.2.symbolsOf r.ref) s).1 then .stopped else .completed),
        (k.through (s.2.symbolsOf r.ref) s).2)
  := by
  apply driveSearch_each

/-- A visit through a library has its meaning. -/
theorem Visit.run_withArchive (l : Library Archive) (c : Convention) (v : Visit ρ β)
    (s : ρ × Archive) :
  v.run (l.withArchive c) s = v.meaning s
  := by
  induction v generalizing s with
  | answer b => rfl
  | act f next ih =>
      rw [run, meaning]
      apply ih
  | handOut t visit next ihVisit ihNext =>
      have hvisit : (fun item => (visit item).run (l.withArchive c))
          = fun item => (visit item).meaning := by
        funext item s
        apply ihVisit
      obtain ⟨x, a⟩ := s
      rw [run, hvisit, t.apply_withArchive]
      apply ihNext
  | search r filter receive next ihFilter ihReceive ihNext =>
      have hfilter : (fun v => (filter v).run (l.withArchive c)) = fun v => (filter v).meaning := by
        funext v s
        apply ihFilter
      have hreceive : (fun v s => ((receive v).run (l.withArchive c) s).2)
          = fun v s => ((receive v).meaning s).2 := by
        funext v s
        rw [ihReceive]
      rw [run, hfilter, hreceive]
      simp only [r.search_withArchive]
      apply ihNext

/-! ### A handout that is visited -/

/-- A visitor with a note of each item is run through a library on the items of a handout up to
the first one at which it stops, whatever it does at each item. The handout is reported as stopped
if there is such an item, and as completed if there is none. -/
theorem Handout.apply_visit (l : Library Archive) (c : Convention) (t : Handout α)
    (visit : α → Visit ρ Bool) (x : ρ) (a : Archive) :
  let f : Applier (ρ × Archive) α := .calm fun item => (visit item).meaning
  let k := f.proceeds (t.items a) (x, t.begun a)
  let seen := (t.items a).take (k + 1)
  let s := f.after seen (x, t.begun a)
  t.apply (l.withArchive c)
      (.calm (Applier.recorded fun item => (visit item).run (l.withArchive c))) (([], x), a)
    = (.ok (.after k (t.items a).length), (seen, s.1), s.2)
  := by
  have hvisit : (fun item => (visit item).run (l.withArchive c))
      = fun item => (visit item).meaning := by
    funext item s
    apply Visit.run_withArchive
  simp only [hvisit, t.apply_withArchive, Applier.proceeds_recorded, Applier.after_recorded,
    List.nil_append]

/-- The two conventions cannot be told apart. Through a library that takes closures and through
one that takes a function with a context, a visitor is given the same items and leaves the same
state behind, and the handout ends in the same way. The items are all those of the handout up to
the first one at which the visitor stops, and the end is never an error. -/
theorem Handout.conventions_agree (l l' : Library Archive) (t : Handout α)
    (visit : α → Visit ρ Bool) (x : ρ) (a : Archive) :
  let f : Applier (ρ × Archive) α := .calm fun item => (visit item).meaning
  let k := f.proceeds (t.items a) (x, t.begun a)
  let seen := (t.items a).take (k + 1)
  let s := f.after seen (x, t.begun a)
  let closure := l.withArchive .closure
  let context := l'.withArchive .contextPointer
  t.apply closure (.calm (Applier.recorded fun item => (visit item).run closure)) (([], x), a)
      = (.ok (.after k (t.items a).length), (seen, s.1), s.2)
    ∧ t.apply context (.calm (Applier.recorded fun item => (visit item).run context))
          (([], x), a)
      = (.ok (.after k (t.items a).length), (seen, s.1), s.2)
  := by
  constructor
  · apply apply_visit l .closure
  · apply apply_visit l' .contextPointer

end SymbolIndex
