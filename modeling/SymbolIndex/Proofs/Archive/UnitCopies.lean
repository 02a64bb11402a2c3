import SymbolIndex.Proofs.Archive.Deliveries
import SymbolIndex.Proofs.Contents.Faithful

/-!
# Copies of a unit

A unit can be opened if it is in its store, and then the time when it was modified is known, too.
What is copied through its reader is the unit. Its paths are mapped by the options with which the
store has been opened.
-/

namespace SymbolIndex

variable {store : Store Archive} {mappings : List (String × String)} {contents : StoreContents}
  {s : Scene} {name : String}

/-- What is shown and copied through a reader is a unit whose paths are mapped. -/
structure UnitReader.GivesBack (u : UnitReader Archive) (mappings : List (String × String))
    (unit : UnitEntry) (a : Archive) : Prop where
  copy : ∃ copy, (u.info a).1 = .ok copy ∧ unit.CopiedAs mappings copy
  modified : ∃ view, (u.view a).1 = .ok view ∧ view.modified = unit.modified

/-- A reader that shows a unit gives it back, by either convention. -/
theorem Scene.HasUnit.givesBack {u : UnitReader Archive} {unit : UnitEntry}
    (h : s.HasUnit u mappings unit) (c : Convention) :
  (u.calling c).GivesBack mappings unit s.2
  := by
  have honest : (u.calling c).library.Honest := u.library.withArchive_honest c
  constructor
  · exact ⟨_, congrArg Prod.fst (UnitReader.info_eq honest h.shown h.name),
      unit.copiedAs_info mappings⟩
  · exact ⟨_, congrArg Prod.fst (UnitReader.view_eq honest h.shown), rfl⟩

namespace Store.OpenWith

variable (h : store.OpenWith mappings contents s) (hzero : '\x00' ∉ name.toList)

include h hzero

/-- Nothing but the name of a unit that is not there is refused. -/
theorem refusesUnit_iff :
  (UnitReader.openIn store name s.2).1
      = .error (.error (.store ⟨"unit_reader_create", "unit not found: " ++ name⟩))
    ↔ name ∉ contents.unitNames
  := by
  rw [← StoreContents.unit?_eq_none]
  cases hunit : contents.unit? name with
  | none =>
      have hrefused : contents.openUnit name
          = StoreError.answer "unit_reader_create" ("unit not found: " ++ name) := by
        rw [StoreContents.openUnit, hunit]
      exact iff_of_true (h.openUnit_of_error hzero hrefused) rfl
  | some unit =>
      have hopens : contents.openUnit name = .ok unit := by
        rw [StoreContents.openUnit, hunit]
      rw [(h.openUnit_of_ok hzero hopens).1]
      simp

theorem unitTime_of_notMem (hmem : name ∉ contents.unitNames) :
  (store.unitTime name s.2).1 = .error (.error (.store
    ⟨"store_get_unit_modification_time", "unit not found: " ++ name⟩))
  := by
  rw [h.unitTime_eq hzero, StoreContents.timeOf, StoreContents.unit?_eq_none.mpr hmem]
  rfl

end Store.OpenWith

/-- A unit of an open store can be opened if there is one of its name. Otherwise the caller is told
so, also when it asks for the time when the unit was modified. What is copied through the reader is
the first unit of the name, by either convention and at any time until the reader is closed. Its
paths are mapped by the options with which the store has been opened. -/
theorem Store.openUnit_openWith (h : store.OpenWith mappings contents s)
    (hzero : '\x00' ∉ name.toList) :
  let opening := UnitReader.openIn store name s.2
  let opened := s.after store.ref (.openUnit name)
  (opening.1 = .error (.error (.store ⟨"unit_reader_create", "unit not found: " ++ name⟩))
      ↔ name ∉ contents.unitNames)
    ∧ (name ∉ contents.unitNames → (store.unitTime name s.2).1 = .error (.error (.store
        ⟨"store_get_unit_modification_time", "unit not found: " ++ name⟩)))
    ∧ (name ∈ contents.unitNames → ∃ u unit, opening = (.ok u, opened.2)
        ∧ contents.unit? name = some unit
        ∧ (store.unitTime name s.2).1 = .ok unit.modified
        ∧ ∀ calls, .deed (.onUnit u.ref .close) ∉ calls → ∀ c,
            (u.calling c).GivesBack mappings unit (opened.called calls).2)
  := by
  intro opening opened
  refine ⟨h.refusesUnit_iff hzero, h.unitTime_of_notMem hzero, fun hmem => ?_⟩
  obtain ⟨unit, hunit⟩ := Option.isSome_iff_exists.mp (StoreContents.mem_unitNames.mp hmem)
  have hopens : contents.openUnit name = .ok unit := by
    rw [StoreContents.openUnit, hunit]
  obtain ⟨hok, hhas⟩ := h.openUnit_of_ok hzero hopens
  refine ⟨_, unit, hok, hunit, ?_, fun calls hclose c => ?_⟩
  · rw [h.unitTime_eq hzero, StoreContents.timeOf, hunit]
  · have hs := (h.after (.openUnit name) (by simp)).sound
    exact (hhas.called hs hclose).givesBack c

/-- The first of two units of one name is given back. The first mapping that fits is not the longest
one, and the last one fits every path. Neither a dependency of an unknown kind nor an empty path is
left out. -/
theorem Store.openUnit_openWith_overlapping :
  let mappings := [("/a", "/x"), ("/a/b", "/y"), ("", "/root/")]
  let first : UnitEntry :=
    { name := "u", isSystem := true, mainFile := some "/a/b/main.c", workingDir := "work"
      dependencies := [{ kind := 99, filePath := "/a/b.h", name := "/a" }, { filePath := "b.h" }]
      includes := [{ sourcePath := "/a/b/main.c", targetPath := "/a/b.h", sourceLine := 3 }] }
  let contents : StoreContents := { units := [first, { name := "u", target := "/a" }] }
  ∃ (store : Store Archive) (s : Scene), store.OpenWith mappings contents s
    ∧ '\x00' ∉ "u".toList ∧ '\x00' ∉ "v".toList
    ∧ (∃ u, UnitReader.openIn store "u" s.2 = (.ok u, (s.after store.ref (.openUnit "u")).2)
      ∧ (store.unitTime "u" s.2).1 = .ok first.modified
      ∧ ∀ calls, .deed (.onUnit u.ref .close) ∉ calls → ∀ c,
          (u.calling c).GivesBack mappings first
            ((s.after store.ref (.openUnit "u")).called calls).2)
    ∧ (UnitReader.openIn store "v" s.2).1
      = .error (.error (.store ⟨"unit_reader_create", "unit not found: v"⟩))
  := by
  intro mappings first contents
  have hzero : '\x00' ∉ "u".toList := by decide
  have hzero' : '\x00' ∉ "v".toList := by decide
  have hmappings : ∀ m ∈ mappings, '\x00' ∉ m.1.toList ∧ '\x00' ∉ m.2.toList := by decide
  obtain ⟨store, s, h⟩ := exists_openWith contents mappings hmappings
  obtain ⟨-, -, hopened⟩ := openUnit_openWith h hzero
  obtain ⟨hrefused, -, -⟩ := openUnit_openWith h hzero'
  obtain ⟨u, unit, hopening, hunit, htime, hgives⟩ := hopened (by decide)
  obtain rfl : first = unit := Option.some.inj hunit
  exact ⟨store, s, h, hzero, hzero', ⟨u, hopening, htime, hgives⟩, hrefused.mpr (by decide)⟩

end SymbolIndex
