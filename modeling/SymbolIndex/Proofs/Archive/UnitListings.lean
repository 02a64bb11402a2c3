import SymbolIndex.Proofs.Isolation.OpenStores
import SymbolIndex.Proofs.Text.Order
import SymbolIndex.Report.Units

/-!
# Listings of units

The names of all units are put into order by the library, and those without the system units by the
client, after they have been chosen one by one. It makes no difference: the names without those of
the system units are what is left of all names, in either order.
-/

namespace SymbolIndex

open Archive (Presents)

/-! ### Names of system units -/

namespace StoreContents

variable {c : StoreContents}

/-- The names of the system units in the order of the store. -/
def systemUnitNames (c : StoreContents) : List String :=
  (c.units.filter UnitEntry.isSystem).map UnitEntry.name

variable (hdistinct : c.unitNames.Nodup)

include hdistinct

/-- A name that two units do not share says of its unit whether it is a system unit. -/
theorem mem_systemUnitNames {u : UnitEntry} (hu : u ∈ c.units) :
  u.name ∈ c.systemUnitNames ↔ u.isSystem
  := by
  rw [systemUnitNames, List.mem_map]
  simp only [List.mem_filter]
  constructor
  · rintro ⟨other, ⟨hother, hsystem⟩, hname⟩
    rw [List.inj_on_of_nodup_map hdistinct hother hu hname] at hsystem
    exact hsystem
  · intro hsystem
    exact ⟨u, ⟨hu, hsystem⟩, rfl⟩

theorem filter_unitNames :
  c.unitNames.filter (fun name => name ∉ c.systemUnitNames)
    = (c.units.filter fun u => !u.isSystem).map UnitEntry.name
  := by
  rw [unitNames, List.filter_map]
  congr 1
  apply List.filter_congr
  intro u hu
  simp [mem_systemUnitNames hdistinct hu]

/-- If all names can be asked for, only the system units are left out. -/
theorem userUnitNames_eq (hzero : ∀ name ∈ c.unitNames, '\x00' ∉ name.toList) :
  c.userUnitNames = c.unitNames.filter fun name => name ∉ c.systemUnitNames
  := by
  rw [userUnitNames]
  apply List.filter_congr
  intro name hname
  obtain ⟨u, hu, rfl⟩ := List.mem_map.mp hname
  simp [hzero _ hname, unit?_of_distinct hdistinct hu, mem_systemUnitNames hdistinct hu]

end StoreContents

/-! ### Listings -/

namespace Store

variable {store : Store Archive} {mappings : List (String × String)} {contents : StoreContents}
  {s : Scene}

/-- What is told of the units: all of them as the library lists them, or the user's as they are
chosen and put into order. -/
theorem reportedUnits_answers (honest : store.library.Honest) (sorted includeSystem : Bool) :
  let names := if includeSystem then contents.unitNames else contents.userUnitNames
  (store.reportedUnits sorted includeSystem).Answers (Presents store.ref mappings contents)
    (.ok (if sorted then names.mergeSort (fun a b => a ≤ b) else names))
  := by
  intro names
  cases includeSystem with
  | true => exact unitNames_answers honest sorted
  | false =>
      have huser : (store.unitNamesFiltered false).Answers (Presents store.ref mappings contents)
          (.ok contents.userUnitNames) :=
        unitNamesFiltered_answers honest false
      apply huser.bind_ok
      exact Access.answers_pure _

/-- All units of an open store are listed in its order, and sorted by the octets of their names. If
the names can be told apart and asked for, the listings without system units are those of all units
without the names of system units, each one in its order. -/
theorem reportedUnits_openWith (h : store.OpenWith mappings contents s) :
  let listed (sorted includeSystem : Bool) := (store.reportedUnits sorted includeSystem s.2).1
  ∃ names : List String, Text.Ordered contents.unitNames names
    ∧ listed false true = .ok contents.unitNames
    ∧ listed true true = .ok names
    ∧ (contents.unitNames.Nodup → (∀ name ∈ contents.unitNames, '\x00' ∉ name.toList) →
        listed false false
            = .ok ((contents.units.filter fun u => !u.isSystem).map UnitEntry.name)
          ∧ listed true false = .ok (names.filter fun name => name ∉ contents.systemUnitNames))
  := by
  intro listed
  have hlisted (sorted includeSystem : Bool) :=
    (reportedUnits_answers h.honest sorted includeSystem s.2 h.presents).1
  have hordered : Text.Ordered contents.unitNames contents.sortedUnitNames :=
    Text.ordered_mergeSort contents.unitNames
  refine ⟨contents.sortedUnitNames, hordered, hlisted false true, hlisted true true, ?_⟩
  intro hdistinct hzero
  have huser := StoreContents.userUnitNames_eq hdistinct hzero
  constructor
  · rw [← StoreContents.filter_unitNames hdistinct, ← huser]
    exact hlisted false false
  · have hsame : contents.userUnitNames.mergeSort (fun a b => a ≤ b)
        = contents.sortedUnitNames.filter fun name => name ∉ contents.systemUnitNames := by
      apply (Text.ordered_mergeSort contents.userUnitNames).unique
      rw [huser]
      exact hordered.filter _
    rw [← hsame]
    exact hlisted true false

/-- The system units are the first one and the last one. A name begins with another one, and the
names are not in the order of their lengths or of their units of sixteen bits. -/
theorem reportedUnits_openWith_mixed :
  let contents : StoreContents := {
    units := [{ name := "b", isSystem := true }, { name := "😀" }, { name := "ab" },
      { name := "\uFFFD" }, { name := "a" }, { name := "é", isSystem := true }] }
  ∃ (store : Store Archive) (s : Scene), store.OpenWith [] contents s
    ∧ contents.unitNames.Nodup
    ∧ (∀ name ∈ contents.unitNames, '\x00' ∉ name.toList)
    ∧ let listed (sorted includeSystem : Bool) := (store.reportedUnits sorted includeSystem s.2).1
      listed false true = .ok ["b", "😀", "ab", "\uFFFD", "a", "é"]
        ∧ listed true true = .ok ["a", "ab", "b", "é", "\uFFFD", "😀"]
        ∧ listed false false = .ok ["😀", "ab", "\uFFFD", "a"]
        ∧ listed true false = .ok ["a", "ab", "\uFFFD", "😀"]
  := by
  intro contents
  have hdistinct : contents.unitNames.Nodup := by decide
  have hzero : ∀ name ∈ contents.unitNames, '\x00' ∉ name.toList := by decide
  obtain ⟨store, s, h⟩ := exists_openWith contents [] (by simp)
  obtain ⟨names, hordered, hall, hsorted, huser⟩ := reportedUnits_openWith h
  obtain ⟨hchosen, hboth⟩ := huser hdistinct hzero
  have hnames : names = ["a", "ab", "b", "é", "\uFFFD", "😀"] := by
    apply hordered.unique
    refine ⟨by decide, ?_⟩
    simp only [Text.not_before_iff_le]
    decide
  subst hnames
  exact ⟨store, s, h, hdistinct, hzero, hall, hsorted, hchosen, hboth⟩

end Store

end SymbolIndex
