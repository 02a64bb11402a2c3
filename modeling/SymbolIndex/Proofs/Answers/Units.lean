import SymbolIndex.Proofs.Answers.Stores
import SymbolIndex.Proofs.Contents.Copies
import SymbolIndex.Proofs.Contents.Units

/-!
# What is read of the units of a store

The copy of a unit that is opened has what the contents of the store say, with the paths to which
the store maps them. A unit that is not there cannot be opened.
-/

namespace SymbolIndex

open Archive (Presents)

variable {α : Type} {ref : StoreRef} {mappings : List (String × String)} {c : StoreContents}
  {a : Archive}

/-- A unit reader is open and shows the unit. -/
def Archive.ShowsUnit (reader : UnitRef) (mappings : List (String × String)) (u : UnitEntry)
    (a : Archive) : Prop :=
  ∃ y, a.units.get? reader = some y
    ∧ y.view = u.view (remap mappings)
    ∧ y.dependencies = u.dependencies.map (fun d => d.view (remap mappings))
    ∧ y.includes = u.includes.map fun i => i.view (remap mappings)

/-- The unit of a name, or the refusal to open it. -/
def StoreContents.openUnit (c : StoreContents) (name : String) : Except Halt UnitEntry :=
  match c.unit? name with
  | some u => .ok u
  | none => StoreError.answer "unit_reader_create" ("unit not found: " ++ name)

namespace UnitReader

variable {r : UnitReader Archive} (honest : r.library.Honest)

include honest

theorem view_honest (a : Archive) :
  r.view a = (.ok (a.unitView r.ref), a)
  := by
  have hbackend : r.library.backend = Archive.backend := honest
  rw [view, hbackend]
  rfl

theorem dependencyInfos_honest (a : Archive) :
  r.dependencyInfos a = (.ok ((a.dependenciesOf r.ref).map DependencyView.info), a)
  := by
  have hbackend : r.library.backend = Archive.backend := honest
  have hstart : r.dependencies.start r.dependencies.convention a
      = (.each (a.dependenciesOf r.ref), a) := by
    simp only [dependencies, hbackend, Archive.backend]
  exact Listing.gather_each hstart DependencyView.info

theorem includeInfos_honest (a : Archive) :
  r.includeInfos a = (.ok ((a.includesOf r.ref).map IncludeView.info), a)
  := by
  have hbackend : r.library.backend = Archive.backend := honest
  have hstart : r.includes.start r.includes.convention a = (.each (a.includesOf r.ref), a) := by
    simp only [includes, hbackend, Archive.backend]
  exact Listing.gather_each hstart IncludeView.info

theorem view_eq {u : UnitEntry} (h : a.ShowsUnit r.ref mappings u) :
  r.view a = (.ok (u.view (remap mappings)), a)
  := by
  obtain ⟨y, hy, hview, -⟩ := h
  rw [view_honest honest, Archive.unitView, hy, Option.map_some, Option.getD_some, hview]

theorem dependencyInfos_eq {u : UnitEntry} (h : a.ShowsUnit r.ref mappings u) :
  r.dependencyInfos a = (.ok (u.dependencies.map fun d => d.info (remap mappings)), a)
  := by
  obtain ⟨y, hy, -, hdependencies, -⟩ := h
  rw [dependencyInfos_honest honest, Archive.dependenciesOf, hy, Option.map_some,
    Option.getD_some, hdependencies, List.map_map]
  simp [Function.comp_def]

theorem includeInfos_eq {u : UnitEntry} (h : a.ShowsUnit r.ref mappings u) :
  r.includeInfos a = (.ok (u.includes.map fun i => i.info (remap mappings)), a)
  := by
  obtain ⟨y, hy, -, -, hincludes⟩ := h
  rw [includeInfos_honest honest, Archive.includesOf, hy, Option.map_some, Option.getD_some,
    hincludes, List.map_map]
  simp [Function.comp_def]

/-- A reader copies the unit that it shows. -/
theorem info_eq {u : UnitEntry} (h : a.ShowsUnit r.ref mappings u) (hname : r.name = u.name) :
  r.info a = (.ok (u.info (remap mappings)), a)
  := by
  simp only [info, bind, Access.bind, view_eq honest h, dependencyInfos_eq honest h,
    includeInfos_eq honest h]
  cases hmain : u.mainFile <;>
    simp [pure, Access.pure, UnitEntry.info, UnitEntry.view, hmain, hname]

end UnitReader

/-- A unit that is there is opened. -/
theorem UnitReader.openIn_opening {store : Store Archive} (honest : store.library.Honest)
    (name : String) :
  (openIn store name).Opening (Presents store.ref mappings c)
    (Text.checked name (Text.quoted name) (c.openUnit name))
    fun r u a => r.store = store ∧ r.name = u.name ∧ a.ShowsUnit r.ref mappings u
  := by
  have hbackend : store.library.backend = Archive.backend := honest
  apply Access.opening_terminated name
  intro hzero
  apply Library.opening_created honest
  intro a h
  obtain ⟨x, hx, rfl, rfl⟩ := h.opened
  simp only [hbackend, Archive.backend, Archive.createUnitReader, hx, Text.decode_octets,
    StoreContents.openUnit]
  cases hu : x.contents.unit? name with
  | none => exact .inl ⟨x.directory, "unit not found: " ++ name, rfl, by simp [hzero], rfl⟩
  | some u =>
      right
      let y : ArchiveUnit := {
        directory := x.directory
        view := u.view (remap x.mappings)
        dependencies := u.dependencies.map fun d => d.view (remap x.mappings)
        includes := u.includes.map fun i => i.view (remap x.mappings) }
      refine ⟨u, a.units.next, _, rfl, rfl, ⟨trivial, ?_, y, h.units.get?_insert y, rfl, rfl, rfl⟩, ?_⟩
      · exact (StoreContents.name_of_unit? hu).symm
      · exact ⟨h.opened, h.errors, h.records, h.units.insert y⟩

theorem UnitReader.close_presents {r : UnitReader Archive} (honest : r.library.Honest)
    (h : a.Presents ref mappings c) :
  (r.close a).Presents ref mappings c
  := by
  have hbackend : r.library.backend = Archive.backend := honest
  simp only [close, hbackend, Archive.backend, Archive.disposeUnitReader]
  split
  · exact h
  · exact ⟨h.opened, h.errors, h.records, h.units.erase r.ref⟩

namespace Store

variable {store : Store Archive} (honest : store.library.Honest)

include honest

/-- What is read of a unit that is opened for one access. -/
theorem withUnit_answers {use : UnitReader Archive → Access Archive α} (name : String)
    {read : UnitEntry → α}
    (huse : ∀ (r : UnitReader Archive) u a, r.library.Honest → r.name = u.name →
      a.ShowsUnit r.ref mappings u → use r a = (.ok (read u), a)) :
  (store.withUnit name use).Answers (Presents store.ref mappings c)
    (Text.checked name (Text.quoted name) ((c.openUnit name).map read))
  := by
  rw [← Text.map_checked]
  apply (UnitReader.openIn_opening honest name).answers
  · rintro r u a ⟨hstore, hname, hshows⟩ _
    exact huse r u a (UnitReader.honest_of_store honest hstore) hname hshows
  · rintro r u a ⟨hstore, -, -⟩ h
    exact UnitReader.close_presents (UnitReader.honest_of_store honest hstore) h

theorem unit_answers (name : String) :
  (store.withUnit name UnitReader.info).Answers (Presents store.ref mappings c)
    (Text.checked name (Text.quoted name)
      ((c.openUnit name).map fun u => u.info (remap mappings)))
  := by
  apply withUnit_answers honest name
  intro r u a hhonest hname hshows
  exact UnitReader.info_eq hhonest hshows hname

end Store

/-- Whether a unit is no system unit, once its view has been asked for. One that cannot be read
counts as a system unit. -/
def UnitView.userAnswer : Except Halt UnitView → Except Halt Bool
  | .ok v => .ok (!v.isSystem)
  | .error (.error _) => .ok false
  | .error h => .error h

/-- The names of the units that can be read and are no system units. -/
def StoreContents.userUnitNames (c : StoreContents) : List String :=
  c.unitNames.filter fun name =>
    '\x00' ∉ name.toList && (c.unit? name).any fun u => !u.isSystem

namespace Store

variable {store : Store Archive} (honest : store.library.Honest)

include honest

theorem isUserUnit_answers (name : String) :
  (store.isUserUnit name).Answers (Presents store.ref mappings c)
    (.ok ('\x00' ∉ name.toList && (c.unit? name).any fun u => !u.isSystem))
  := by
  have hview : (store.withUnit name UnitReader.view).Answers (Presents store.ref mappings c)
      (Text.checked name (Text.quoted name)
        ((c.openUnit name).map fun u => u.view (remap mappings))) := by
    apply withUnit_answers honest name
    intro r u a hhonest _ hshows
    exact UnitReader.view_eq hhonest hshows
  have hisUser : UnitView.userAnswer (Text.checked name (Text.quoted name)
        ((c.openUnit name).map fun u => u.view (remap mappings)))
      = .ok ('\x00' ∉ name.toList && (c.unit? name).any fun u => !u.isSystem) := by
    rw [Text.checked, StoreContents.openUnit]
    by_cases hzero : '\x00' ∈ name.toList
    · simp [hzero, UnitView.userAnswer]
    · cases c.unit? name with
      | none => simp [hzero, UnitView.userAnswer, StoreError.answer, Except.map]
      | some u => simp [hzero, UnitView.userAnswer, UnitEntry.view, Except.map]
  rw [← hisUser]
  apply (Access.answers_attempt hview).bind (g := UnitView.userAnswer)
  rintro ((e | message) | v)
  · exact Access.answers_pure false
  · exact fun _ hs => ⟨rfl, hs⟩
  · exact Access.answers_pure (!v.isSystem)

theorem unitNamesFiltered_answers (includeSystem : Bool) :
  (store.unitNamesFiltered includeSystem).Answers (Presents store.ref mappings c)
    (.ok (if includeSystem then c.unitNames else c.userUnitNames))
  := by
  have hnames : (store.unitNames false).Answers (Presents store.ref mappings c) (.ok c.unitNames) :=
    unitNames_answers honest false
  rw [unitNamesFiltered]
  cases includeSystem with
  | true => exact hnames.bind fun names => Access.answers_pure names
  | false => exact hnames.bind fun names => Access.answers_filterM (isUserUnit_answers honest) names

end Store

end SymbolIndex
