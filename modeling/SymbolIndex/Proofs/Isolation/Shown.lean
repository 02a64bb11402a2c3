import SymbolIndex.Proofs.Isolation.Readers

/-!
# Answers of readers

Everything that is asked of a reader is answered as the record or the unit says that it shows. So
it is answered in the same way as often as it is asked.
-/

namespace SymbolIndex

variable {s : Scene} {ref : StoreRef} {mappings : List (String × String)}

/-! ### Readers that are open -/

/-- A record reader is held and shows a record. -/
structure Scene.HasRecord (s : Scene) (r : RecordReader Archive) (entry : RecordEntry) : Prop where
  held : s.1.record? r.ref = some r
  shown : ∃ directory, s.2.records.get? r.ref
    = some ⟨directory, entry.symbolViews r.ref, entry.occurrenceViews r.ref⟩

/-- A unit reader is held and shows a unit, whose paths are mapped. -/
structure Scene.HasUnit (s : Scene) (u : UnitReader Archive) (mappings : List (String × String))
    (entry : UnitEntry) : Prop where
  held : s.1.unit? u.ref = some u
  name : u.name = entry.name
  shown : s.2.ShowsUnit u.ref mappings entry

namespace Scene

variable {r : RecordReader Archive} {u : UnitReader Archive} {entry : RecordEntry}
  {unit : UnitEntry}

theorem Sound.records (hs : s.Sound) :
  s.2.records.Sound
  := Table.sound_of_roll (hs.archive.books.fresh .record) (hs.archive.books.distinct .record)

theorem Sound.units (hs : s.Sound) :
  s.2.units.Sound
  := Table.sound_of_roll (hs.archive.books.fresh .unit) (hs.archive.books.distinct .unit)

theorem HasRecord.call (h : s.HasRecord r entry) (hs : s.Sound) {c : Call}
    (hclose : c ≠ .deed (.onRecord r.ref .close)) :
  (c.run s).HasRecord r entry
  := by
  obtain ⟨directory, hshown⟩ := h.shown
  have hmade := hs.records.fresh _ (Table.get?_mem hshown)
  have hheld := (Call.record?_run hs hmade hclose).trans h.held
  obtain ⟨-, hhas⟩ := Holdings.mem_of_record? hheld
  obtain ⟨y, hy, -⟩ := Archive.record_of_has ((c.run_sound hs).held ▸ hhas)
  have hsame := (c.later_run hs).records.found _ _ hmade hy
  obtain rfl := Option.some.inj (hshown.symm.trans hsame)
  exact ⟨hheld, directory, hy⟩

theorem HasUnit.call (h : s.HasUnit u mappings unit) (hs : s.Sound) {c : Call}
    (hclose : c ≠ .deed (.onUnit u.ref .close)) :
  (c.run s).HasUnit u mappings unit
  := by
  obtain ⟨y, hy, hview⟩ := h.shown
  have hmade := hs.units.fresh _ (Table.get?_mem hy)
  have hheld := (Call.unit?_run hs hmade hclose).trans h.held
  obtain ⟨-, hhas⟩ := Holdings.mem_of_unit? hheld
  obtain ⟨y', hy', -⟩ := Archive.unit_of_has ((c.run_sound hs).held ▸ hhas)
  have hsame := (c.later_run hs).units.found _ _ hmade hy'
  obtain rfl := Option.some.inj (hy.symm.trans hsame)
  exact ⟨hheld, h.name, y, hy', hview⟩

/-- A record reader shows its record until it is closed. -/
theorem HasRecord.called (h : s.HasRecord r entry) (hs : s.Sound) {calls : List Call}
    (hclose : .deed (.onRecord r.ref .close) ∉ calls) :
  (s.called calls).HasRecord r entry
  := by
  induction calls generalizing s with
  | nil => exact h
  | cons c calls ih =>
      rw [List.mem_cons, not_or] at hclose
      exact ih (h.call hs (Ne.symm hclose.1)) (c.run_sound hs) hclose.2

/-- A unit reader shows its unit until it is closed. -/
theorem HasUnit.called (h : s.HasUnit u mappings unit) (hs : s.Sound) {calls : List Call}
    (hclose : .deed (.onUnit u.ref .close) ∉ calls) :
  (s.called calls).HasUnit u mappings unit
  := by
  induction calls generalizing s with
  | nil => exact h
  | cons c calls ih =>
      rw [List.mem_cons, not_or] at hclose
      exact ih (h.call hs (Ne.symm hclose.1)) (c.run_sound hs) hclose.2

end Scene

/-! ### What is answered -/

namespace RecordEntry

variable (entry : RecordEntry) (r : RecordReader Archive)

/-- What an operation on a reader of the record gives. -/
def given : RecordDeed → Given
  | .symbolInfos => .response (.symbols entry.symbolInfos)
  | .cachedSymbols => .held ((entry.symbolViews r.ref).map (HeldSymbol.mk r.library.identity))
  | .occurrenceInfos => .response (.occurrences entry.occurrenceInfos)
  | .close => .done

/-- The occurrences of the record that a reader selects. -/
def selected (selection : Selection) : List OccurrenceView :=
  (entry.occurrenceViews r.ref).filter selection.selects

end RecordEntry

/-- What an operation on a reader of the unit gives. Paths are mapped. -/
def UnitEntry.given (unit : UnitEntry) (path : String → String) : UnitDeed → Given
  | .view => .view (unit.view path)
  | .info => .response (.unit (unit.info path))
  | .dependencyInfos => .dependencies (unit.dependencies.map fun d => d.info path)
  | .includeInfos => .includes (unit.includes.map fun i => i.info path)
  | .close => .done

/-- What an operation on an item gives. It is in the item. -/
def ItemDeed.shown : ItemDeed → Given
  | occurrenceSymbol v => .symbol v.symbol
  | occurrenceInfo v => .occurrence v.info
  | relationSymbol v => .symbol v.symbol
  | relationInfo v => .relation v.info

namespace Scene

/-- Everything that is asked of a record reader is answered as a record says. -/
structure ReadsRecord (s : Scene) (r : RecordReader Archive) (entry : RecordEntry) : Prop where
  given : ∀ deed, (Deed.onRecord r.ref deed).given s = .ok (entry.given r deed)
  symbols : (Reading.symbols r.ref).play? s = some (.ok (.each (entry.symbolViews r.ref)))
  occurrences :
    (Reading.occurrences r.ref).play? s = some (.ok (.each (entry.selected r .all)))
  onLines : ∀ start count, (Reading.occurrencesOnLines r.ref start count).play? s
    = some (.ok (.each (entry.selected r (.lines start count))))
  /-- Symbols of another library are refused. -/
  ofSymbols : ∀ wanted related, (Reading.occurrencesOfSymbols r.ref wanted related).play? s
    = some (if (wanted ++ related).any fun h => h.library != r.library.identity then
        .error (.badArgument .foreignSymbols)
      else .ok (.each (entry.selected r
        (.ofSymbols (wanted.map (·.view.ref)) (related.map (·.view.ref))))))
  search : (Call.search r.ref).answer s = .searchPlay (some (.each (entry.symbolViews r.ref)))

/-- Everything that is asked of a unit reader is answered as a unit says. -/
structure ReadsUnit (s : Scene) (u : UnitReader Archive) (path : String → String)
    (unit : UnitEntry) : Prop where
  given : ∀ deed, (Deed.onUnit u.ref deed).given s = .ok (unit.given path deed)
  dependencies : (Reading.dependencies u.ref).play? s
    = some (.ok (.each (unit.dependencies.map fun d => d.view path)))
  includes : (Reading.includes u.ref).play? s
    = some (.ok (.each (unit.includes.map fun i => i.view path)))

variable {r : RecordReader Archive} {u : UnitReader Archive} {entry : RecordEntry}
  {unit : UnitEntry}

theorem HasRecord.symbolsOf_eq (h : s.HasRecord r entry) :
  s.2.symbolsOf r.ref = entry.symbolViews r.ref
  := by
  obtain ⟨directory, hshown⟩ := h.shown
  rw [Archive.symbolsOf, hshown]
  rfl

theorem HasRecord.occurrencesOf_eq (h : s.HasRecord r entry) (selection : Selection) :
  s.2.occurrencesOf r.ref selection = entry.selected r selection
  := by
  obtain ⟨directory, hshown⟩ := h.shown
  rw [Archive.occurrencesOf, hshown]
  rfl

theorem HasRecord.reads (h : s.HasRecord r entry) (hs : s.Sound) :
  s.ReadsRecord r entry
  := by
  obtain ⟨directory, hshown⟩ := h.shown
  have honest : r.library.Honest := hs.honest.record h.held
  have hbackend : r.library.backend = Archive.backend := honest
  have hshows : s.2.ShowsRecord r.ref entry := ⟨_, _, hshown, rfl, rfl⟩
  have hsymbols := h.symbolsOf_eq
  have hselected := h.occurrencesOf_eq
  constructor
  · intro deed
    simp only [Deed.given, h.held]
    cases deed with
    | symbolInfos =>
        rw [RecordDeed.given, Access.gives, RecordReader.symbolInfos_eq honest hshows]
        rfl
    | cachedSymbols =>
        rw [RecordDeed.given, Access.gives, RecordReader.cachedSymbols_honest honest, hsymbols]
        rfl
    | occurrenceInfos =>
        rw [RecordDeed.given, Access.gives, RecordReader.occurrenceInfos_eq honest hshows]
        rfl
    | close => rfl
  · rw [Reading.play?_eq _ hs, Reading.listing?, h.held, Reading.items, hsymbols]
    rfl
  · rw [Reading.play?_eq _ hs, Reading.listing?, h.held, Reading.items, hselected]
    rfl
  · intro start count
    rw [Reading.play?_eq _ hs, Reading.listing?, h.held, Reading.items, hselected]
    rfl
  · intro wanted related
    rw [Reading.play?_eq _ hs, Reading.listing?, h.held, Reading.items, hselected,
      Option.map_some, Option.map_some, RecordReader.occurrencesOfSymbols]
    split <;> rfl
  · rw [Call.answer, h.held, Option.map_some, hbackend, ← hsymbols]
    rfl

theorem HasUnit.reads (h : s.HasUnit u mappings unit) (hs : s.Sound) :
  s.ReadsUnit u (remap mappings) unit
  := by
  obtain ⟨y, hy, hview, hdependencies, hincludes⟩ := h.shown
  have honest : u.library.Honest := hs.honest.unit h.held
  have hdependenciesOf : s.2.dependenciesOf u.ref
      = unit.dependencies.map fun d => d.view (remap mappings) := by
    rw [Archive.dependenciesOf, hy, Option.map_some, Option.getD_some, hdependencies]
  have hincludesOf : s.2.includesOf u.ref = unit.includes.map fun i => i.view (remap mappings) := by
    rw [Archive.includesOf, hy, Option.map_some, Option.getD_some, hincludes]
  constructor
  · intro deed
    simp only [Deed.given, h.held]
    cases deed with
    | view =>
        rw [UnitDeed.given, Access.gives, UnitReader.view_eq honest h.shown]
        rfl
    | info =>
        rw [UnitDeed.given, Access.gives, UnitReader.info_eq honest h.shown h.name]
        rfl
    | dependencyInfos =>
        rw [UnitDeed.given, Access.gives, UnitReader.dependencyInfos_honest honest,
          hdependenciesOf, List.map_map]
        simp [Except.map, UnitEntry.given, Function.comp_def]
    | includeInfos =>
        rw [UnitDeed.given, Access.gives, UnitReader.includeInfos_honest honest, hincludesOf,
          List.map_map]
        simp [Except.map, UnitEntry.given, Function.comp_def]
    | close => rfl
  · rw [Reading.play?_eq _ hs, Reading.listing?, h.held, Reading.items, hdependenciesOf]
    rfl
  · rw [Reading.play?_eq _ hs, Reading.listing?, h.held, Reading.items, hincludesOf]
    rfl

theorem given_onItem (l : Library Archive) (deed : ItemDeed) (s : Scene) :
  (Deed.onItem l deed).given s = .ok deed.shown
  := by
  have honest := l.withArchive_honest l.convention
  cases deed with
  | occurrenceSymbol v | relationSymbol v => rfl
  | occurrenceInfo v =>
      rw [Deed.given, ItemDeed.given, Access.gives, Library.occurrenceInfo_honest honest]
      rfl
  | relationInfo v =>
      rw [Deed.given, ItemDeed.given, Access.gives, Library.relationInfo_honest honest]
      rfl

end Scene

/-! ### Opening readers -/

theorem StoreContents.name_of_openUnit {c : StoreContents} {name : String} {unit : UnitEntry}
    (h : c.openUnit name = .ok unit) :
  unit.name = name
  := by
  rw [openUnit] at h
  cases hunit : c.unit? name with
  | none =>
      rw [hunit] at h
      cases h
  | some found =>
      rw [hunit] at h
      obtain rfl := Except.ok.inj h
      exact name_of_unit? hunit

namespace Scene

variable {r : RecordReader Archive} {u : UnitReader Archive} {e : EventStore Archive}
  {x : ArchiveStore} {name : String}

theorem Sound.record_lt (hs : s.Sound) (hr : r ∈ s.1.records) :
  r.ref < s.2.records.next
  := hs.held_lt .record (List.mem_map_of_mem hr)

theorem Sound.unit_lt (hs : s.Sound) (hu : u ∈ s.1.units) :
  u.ref < s.2.units.next
  := hs.held_lt .unit (List.mem_map_of_mem hu)

section

variable (hs : s.Sound) (he : s.1.store? ref = some e) (hx : s.2.stores.get? ref = some x)

include hs he hx

/-- A record reader that has been opened shows a record of the contents of its store. -/
theorem hasRecord_opened (hok : s.Succeeds ref (.openRecord name)) :
  ∃ entry, x.contents.openRecord name = .ok entry
    ∧ (s.after ref (.openRecord name)).HasRecord ⟨e.store, s.2.records.next, name⟩ entry
  := by
  obtain ⟨rfl, -, honest, -⟩ := hs.store_held he
  rw [Succeeds, Deed.run_onStore he, StoreDeed.act, use] at hok
  rw [after, Deed.run_onStore he, StoreDeed.act, use]
  rcases hopen : RecordReader.openIn e.store name s.2 with ⟨halt | r, a⟩
  · rw [hopen] at hok
    cases hok
  · obtain ⟨rfl, entry, directory, hentry, hrecords⟩ := RecordReader.of_openIn honest hx hopen
    refine ⟨entry, hentry, ?_, directory, ?_⟩
    · exact find?_appended (·.ref) ⟨e.store, s.2.records.next, name⟩ fun _ hr => hs.record_lt hr
    · rw [hrecords]
      exact hs.records.get?_insert _

/-- A unit reader that has been opened shows a unit of the contents of its store. -/
theorem hasUnit_opened (hok : s.Succeeds ref (.openUnit name)) :
  ∃ entry, x.contents.openUnit name = .ok entry
    ∧ (s.after ref (.openUnit name)).HasUnit ⟨e.store, s.2.units.next, name⟩ x.mappings entry
  := by
  obtain ⟨rfl, -, honest, -⟩ := hs.store_held he
  rw [Succeeds, Deed.run_onStore he, StoreDeed.act, use] at hok
  rw [after, Deed.run_onStore he, StoreDeed.act, use]
  rcases hopen : UnitReader.openIn e.store name s.2 with ⟨halt | u, a⟩
  · rw [hopen] at hok
    cases hok
  · obtain ⟨rfl, entry, directory, hentry, hunits⟩ := UnitReader.of_openIn honest hx hopen
    have hname := StoreContents.name_of_openUnit hentry
    refine ⟨entry, hentry, ?_, hname.symm, ?_⟩
    · exact find?_appended (·.ref) ⟨e.store, s.2.units.next, name⟩ fun _ hu => hs.unit_lt hu
    · have hfound := hs.units.get?_insert
      rw [Archive.ShowsUnit, hunits]
      exact ⟨_, hfound _, rfl, rfl, rfl⟩

end

end Scene

end SymbolIndex
