import SymbolIndex.Archive.Backend
import SymbolIndex.Proofs.Text.Utf8
import SymbolIndex.Proofs.Traversal.Obedience
import SymbolIndex.Store.Record
import SymbolIndex.Store.Unit

/-!
# Handouts of the archive

A handout is one of the operations by which the archive hands out items, with what it is asked of.
It can be run through any library that has the archive behind it. What it hands out can be said
without a library.
-/

namespace SymbolIndex

variable {σ ρ α : Type}

/-- The library with the archive behind it, which takes its callbacks by a convention. -/
def Library.withArchive (l : Library Archive) (c : Convention) : Library Archive :=
  { l with convention := c, backend := Archive.backend }

/-! ### The same object in another library -/

def Store.through (store : Store σ) (l : Library σ) : Store σ := { store with library := l }

def RecordReader.through (r : RecordReader σ) (l : Library σ) : RecordReader σ :=
  { r with store := r.store.through l }

def UnitReader.through (r : UnitReader σ) (l : Library σ) : UnitReader σ :=
  { r with store := r.store.through l }

/-- An operation that hands out items of some type. -/
inductive Handout : Type → Type where
  | units (store : Store Archive) (sorted : Bool) : Handout String
  /-- The symbols of a record, past the cache of its reader or through it. -/
  | symbols (r : RecordReader Archive) (pastCache : Bool) : Handout SymbolView
  | occurrences (r : RecordReader Archive) : Handout OccurrenceView
  | occurrencesOnLines (r : RecordReader Archive) (start count : UInt32) : Handout OccurrenceView
  | occurrencesOfSymbols (r : RecordReader Archive) (wanted related : List SymbolView) :
      Handout OccurrenceView
  | relations (o : OccurrenceView) : Handout RelationView
  | dependencies (r : UnitReader Archive) : Handout DependencyView
  | includes (r : UnitReader Archive) : Handout IncludeView

namespace Handout

/-- The operation of a library. The symbols that it is asked for are those of the library. -/
def listing (l : Library Archive) : Handout α → Except Error (Listing Archive α)
  | units store sorted => .ok ((store.through l).units sorted)
  | symbols r pastCache => .ok ((r.through l).listing pastCache)
  | occurrences r => .ok (r.through l).occurrences
  | occurrencesOnLines r start count => .ok ((r.through l).occurrencesOnLines start count)
  | occurrencesOfSymbols r wanted related =>
    (r.through l).occurrencesOfSymbols (wanted.map (HeldSymbol.mk l.identity))
      (related.map (HeldSymbol.mk l.identity))
  | relations o => .ok (l.relations o)
  | dependencies r => .ok (r.through l).dependencies
  | includes r => .ok (r.through l).includes

/-- Runs an applier through a library. -/
def apply (l : Library Archive) (t : Handout α) (f : Applier (ρ × Archive) α) :
    Access (ρ × Archive) Outcome :=
  match t.listing l with
  | .ok listing => listing.apply f
  | .error e => .fail e

/-- All items. -/
def items : Handout α → Archive → List α
  | units store sorted, a => a.unitNamesOf store.ref sorted
  | symbols r _, a => a.symbolsOf r.ref
  | occurrences r, a => a.occurrencesOf r.ref .all
  | occurrencesOnLines r start count, a => a.occurrencesOf r.ref (.lines start count)
  | occurrencesOfSymbols r wanted related, a =>
    a.occurrencesOf r.ref (.ofSymbols (wanted.map SymbolView.ref) (related.map SymbolView.ref))
  | relations o, _ => o.relations
  | dependencies r, a => a.dependenciesOf r.ref
  | includes r, a => a.includesOf r.ref

/-- The archive when the first item is handed out. Asking for the occurrences on some lines is
counted. -/
def begun : Handout α → Archive → Archive
  | occurrencesOnLines r start count, a => a.countQuery r.ref (.lines start count)
  | _, a => a

end Handout

theorem Play.map_each {β : Type} (f : α → β) (items : List α) :
  (Play.each items).map f = .each (items.map f)
  := by
  induction items with
  | nil => rfl
  | cons a items ih =>
      simp only [each, map, List.map_cons, deliver.injEq, true_and]
      funext proceed
      cases proceed
      · rfl
      · apply ih

/-- Symbols of the reader's own library are not refused. -/
theorem RecordReader.occurrencesOfSymbols_own (r : RecordReader σ)
    (wanted related : List SymbolView) :
  r.occurrencesOfSymbols (wanted.map (HeldSymbol.mk r.library.identity))
      (related.map (HeldSymbol.mk r.library.identity))
    = .ok (r.select (.ofSymbols (wanted.map SymbolView.ref) (related.map SymbolView.ref)))
  := by
  rw [occurrencesOfSymbols, if_neg]
  · simp [Function.comp_def]
  · simp

/-- A handout of the archive is an operation that hands out its items, by either convention. -/
theorem Handout.listing_withArchive (l : Library Archive) (c : Convention) (t : Handout α) :
  ∃ listing, t.listing (l.withArchive c) = .ok listing
    ∧ listing.convention = c
    ∧ ∀ a, listing.start c a = (.each (t.items a), t.begun a)
  := by
  cases t with
  | units store sorted =>
      use (store.through (l.withArchive c)).units sorted, rfl, rfl
      intro a
      simp [Store.units, Store.through, Listing.map, Library.withArchive, Archive.backend,
        Play.map_each, items, begun, Function.comp_def]
  | symbols r pastCache =>
      use (r.through (l.withArchive c)).listing pastCache, rfl, rfl
      intro a
      rfl
  | occurrences r =>
      use (r.through (l.withArchive c)).occurrences, rfl, rfl
      intro a
      rfl
  | occurrencesOnLines r start count =>
      use (r.through (l.withArchive c)).occurrencesOnLines start count, rfl, rfl
      intro a
      rfl
  | occurrencesOfSymbols r wanted related =>
      use (r.through (l.withArchive c)).select
        (.ofSymbols (wanted.map SymbolView.ref) (related.map SymbolView.ref))
      use (r.through (l.withArchive c)).occurrencesOfSymbols_own wanted related, rfl
      intro a
      rfl
  | relations o =>
      use (l.withArchive c).relations o, rfl, rfl
      intro a
      rfl
  | dependencies r =>
      use (r.through (l.withArchive c)).dependencies, rfl, rfl
      intro a
      rfl
  | includes r =>
      use (r.through (l.withArchive c)).includes, rfl, rfl
      intro a
      rfl

end SymbolIndex
