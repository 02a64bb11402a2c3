import SymbolIndex.Library.Access

/-!
# Listings

A listing is an operation by which a library hands out items one at a time. It is run with an
applier, which may use the library itself, or it is gathered into a list. A gathered list is
complete: if the library does not hand over every item, or if an item cannot be copied, there is
an error and no list.
-/

namespace SymbolIndex

/-- An operation by which a library hands out items. It has a form for each convention, and the
library in use takes its callback by one of them. -/
structure Listing (σ α : Type) where
  operation : String
  convention : Convention
  /-- How the operation begins in either form. -/
  start : Convention → σ → Play α × σ

/-- What has been gathered: the copies, last first, and the error of the item that could not be
copied. -/
structure Gathered (β : Type) where
  copies : List β := []
  failure : Option Error := none

namespace Listing

variable {σ α β ρ : Type}

def map (f : α → β) (t : Listing σ α) : Listing σ β where
  operation := t.operation
  convention := t.convention
  start c s := ((t.start c s).1.map f, (t.start c s).2)

/-- Runs an applier, which has a state of its own and may use the library. -/
def apply (t : Listing σ α) (f : Applier (ρ × σ) α) : Access (ρ × σ) Outcome := fun s =>
  match t.start t.convention s.2 with
  | (play, library) => drive t.convention t.operation play f (s.1, library)

/-- The applier that copies each item. The first item that cannot be copied is the last one. -/
def gatherer (copy : α → Access σ β) : Applier (Gathered β × σ) α := fun item s =>
  match copy item s.2 with
  | (.ok b, library) => (.proceed, { s.1 with copies := b :: s.1.copies }, library)
  | (.error (.error e), library) => (.stop, { s.1 with failure := some e }, library)
  | (.error (.panic message), library) => (.panic message, s.1, library)

/-- The copies of all items. -/
def gather (t : Listing σ α) (copy : α → Access σ β) : Access σ (List β) := fun s =>
  match t.apply (gatherer copy) ({}, s) with
  | (.error h, _, s) => (.error h, s)
  | (.ok _, ⟨_, some e⟩, s) => (.error (.error e), s)
  | (.ok _, ⟨copies, none⟩, s) => (.ok copies.reverse, s)

/-- All items. -/
def toList (t : Listing σ α) : Access σ (List α) := t.gather .pure

end Listing

end SymbolIndex
