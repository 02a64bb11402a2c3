import SymbolIndex.Proofs.Answers.Names
import SymbolIndex.Proofs.Collection.Gathering

/-!
# What an open store answers

The names of the units of an open store, and the times when they were modified, are those of its
contents. The name of the unit that is written for an output file is had in full.
-/

namespace SymbolIndex

open Text (Octets)
open Archive (Presents)

/-! ### Names and times -/

variable {mappings : List (String × String)} {c : StoreContents} {a : Archive}

/-- When a unit was modified, or the refusal to say so. -/
def StoreContents.timeOf (c : StoreContents) (name : String) : Except Halt Timestamp :=
  match c.unit? name with
  | some u => .ok u.modified
  | none => StoreError.answer "store_get_unit_modification_time" ("unit not found: " ++ name)

namespace Store

variable {store : Store Archive} (honest : store.library.Honest)

include honest

theorem unitNames_honest (sorted : Bool) (a : Archive) :
  store.unitNames sorted a = (.ok (a.unitNamesOf store.ref sorted), a)
  := by
  have hbackend : store.library.backend = Archive.backend := honest
  let octets : Listing Archive (Option Octets) :=
    { operation := "store_units_apply"
      convention := store.library.convention
      start := fun c => store.library.backend.units c store.ref sorted }
  have hstart : octets.start octets.convention a
      = (.each ((a.unitNamesOf store.ref sorted).map fun u => some (Text.octets u)), a) := by
    simp only [octets, hbackend]
    rfl
  rw [unitNames, Listing.toList, units, Listing.gather_map, Listing.gather_each hstart Text.read,
    List.map_map]
  have hread : (Text.read ∘ fun u => some (Text.octets u)) = id := by
    funext u
    exact Text.read_octets u
  rw [hread, List.map_id]

/-- The names of the units, as they are in the store or in their order. -/
theorem unitNames_eq {x : ArchiveStore} (hx : a.stores.get? store.ref = some x) (sorted : Bool) :
  store.unitNames sorted a
    = (.ok (if sorted then x.contents.sortedUnitNames else x.contents.unitNames), a)
  := by
  rw [unitNames_honest honest, Archive.unitNamesOf, hx]

theorem unitNames_answers (sorted : Bool) :
  (store.unitNames sorted).Answers (Presents store.ref mappings c)
    (.ok (if sorted then c.sortedUnitNames else c.unitNames))
  := by
  apply Access.answers_of_eq
  intro a h
  obtain ⟨x, hx, -, rfl⟩ := h.opened
  exact unitNames_eq honest hx sorted

/-- The time of a unit is told, or refused with the name of the unit. -/
theorem unitTime_answers (unit : String) :
  (store.unitTime unit).Answers (Presents store.ref mappings c)
    (Text.checked unit (Text.quoted unit) (c.timeOf unit))
  := by
  have hbackend : store.library.backend = Archive.backend := honest
  apply Access.answers_terminated unit
  intro hzero a h
  obtain ⟨x, hx, -, rfl⟩ := h.opened
  simp only [bind, Access.bind, Access.step, hbackend, Archive.backend, Archive.unitTime, hx,
    Text.decode_octets, StoreContents.timeOf]
  cases x.contents.unit? unit with
  | some u => exact ⟨rfl, h⟩
  | none =>
      have hdescription : '\x00' ∉ ("unit not found: " ++ unit).toList := by
        simp [hzero]
      exact Library.failure_reported honest h _ _ hdescription

/-- The name is made of the path alone, so every state gives this answer. -/
theorem unitName_answers {P : Archive → Prop} (outputPath : String) :
  (store.unitName outputPath).Answers P
    (Text.checked outputPath outputPath (Access.told (SymbolIndex.unitName outputPath)))
  := by
  have hbackend : store.library.backend = Archive.backend := honest
  have hwrites : Access.Writes (store.library.backend.unitName store.ref (Text.octets outputPath))
      (Text.octets (SymbolIndex.unitName outputPath)) := by
    intro room a hroom
    rw [hbackend]
    simp only [Archive.backend, Archive.writeUnitName, Text.decode_octets, if_neg hroom.ne']
  intro a ha
  refine ⟨?_, unitName_within honest outputPath a ▸ ha⟩
  rw [unitName_eq, Text.checked]
  split
  case isTrue => rfl
  case isFalse =>
      rw [Access.name_of_writes hwrites, Text.decode_octets, Access.told_eq]

end Store

end SymbolIndex
