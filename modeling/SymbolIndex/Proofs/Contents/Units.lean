import Mathlib.Data.List.Nodup
import SymbolIndex.Contents.Basic

/-!
# Units of a store

The first unit that has a name is found by it. Units are discarded by their names, and then all
other units are found as before. A record is referred to if some unit depends on it.
-/

namespace SymbolIndex

/-! ### Names -/

namespace StoreContents

variable {c : StoreContents} {u : UnitEntry} {name : String}

/-- A name is listed exactly if a unit is found by it. -/
theorem mem_unitNames :
  name ∈ c.unitNames ↔ (c.unit? name).isSome
  := by
  simp [unitNames, unit?, List.find?_isSome]

theorem unit?_eq_none :
  c.unit? name = none ↔ name ∉ c.unitNames
  := by
  rw [mem_unitNames, Option.not_isSome_iff_eq_none]

theorem name_of_unit? (h : c.unit? name = some u) :
  u.name = name
  := by
  simpa using List.find?_some h

/-- If no two units have one name, each unit is found by its name. -/
theorem unit?_of_distinct (hdistinct : c.unitNames.Nodup) (hu : u ∈ c.units) :
  c.unit? u.name = some u
  := by
  have hmem : u.name ∈ c.unitNames := List.mem_map_of_mem hu
  obtain ⟨found, hfound⟩ := Option.isSome_iff_exists.mp (mem_unitNames.mp hmem)
  have hname := name_of_unit? hfound
  have hsame := List.inj_on_of_nodup_map hdistinct (List.mem_of_find?_eq_some hfound) hu hname
  rw [hfound, hsame]

theorem unitNames_discardUnit (c : StoreContents) (name : String) :
  (c.discardUnit name).unitNames = c.unitNames.filter fun u => u != name
  := by
  simp [unitNames, discardUnit, List.filter_map, Function.comp_def]

/-- To discard a unit that is not there changes nothing. -/
theorem discardUnit_of_none (h : c.unit? name = none) :
  c.discardUnit name = c
  := by
  have hall : c.units.filter (fun u => u.name != name) = c.units := by
    rw [List.filter_eq_self]
    intro u hu
    have hname := List.find?_eq_none.mp h u hu
    simpa using hname
  rw [discardUnit, hall]

/-- Units of other names are found as before. -/
theorem unit?_discardUnit {unit : String} (h : unit ≠ name) :
  (c.discardUnit unit).unit? name = c.unit? name
  := by
  rw [unit?, discardUnit, List.find?_filter]
  congr 1
  funext u
  by_cases hu : u.name = name <;> simp [hu, h.symm]

end StoreContents

/-! ### Records -/

/-- The names of the records on which a unit depends, as it lists them. -/
def UnitEntry.records (u : UnitEntry) : List String :=
  (u.dependencies.filter fun d => d.kind == Vocabulary.code DependencyKind.record).map
    DependencyEntry.name

theorem UnitEntry.mem_records {u : UnitEntry} {name : String} :
  name ∈ u.records ↔ ∃ d ∈ u.dependencies,
    d.kind = Vocabulary.code DependencyKind.record ∧ d.name = name
  := by
  simp only [records, List.mem_map, List.mem_filter, beq_iff_eq, and_assoc]

theorem StoreContents.mem_referencedRecords {c : StoreContents} {name : String} :
  name ∈ c.referencedRecords ↔ ∃ u ∈ c.units, name ∈ u.records
  := List.mem_flatMap

end SymbolIndex
