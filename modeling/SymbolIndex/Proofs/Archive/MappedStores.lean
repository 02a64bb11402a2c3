import SymbolIndex.Proofs.Contents.Faithful
import SymbolIndex.Proofs.Isolation.OpenStores

/-!
# Stores with mappings

A client and the library have the same mappings in options. A store that is opened with them maps
the paths of its units as the options say at that moment, as long as it is open.
-/

namespace SymbolIndex

variable {s : Scene}

/-- The paths of all units of a store are mapped. If there are no mappings, they stay as they
are. -/
def Scene.MapsUnits (s : Scene) (ref : StoreRef) (mappings : List (String × String)) : Prop :=
  ∃ e x, s.1.store? ref = some e ∧ s.2.stores.get? ref = some x ∧ x.mappings = mappings
    ∧ ∀ name unit, '\x00' ∉ name.toList → x.contents.unit? name = some unit →
        ∃ copy, (e.store.withUnit name UnitReader.info s.2).1 = .ok copy
          ∧ unit.CopiedAs mappings copy ∧ (mappings = [] → copy = unit.info id)

/-- Every store that is opened maps the paths of its units until it is closed. -/
def Scene.OpensMapping (s : Scene) (options : Option OptionsRef)
    (mappings : List (String × String)) : Prop :=
  ∀ l path, ((Deed.openStore l path options).run s).1 = .ok () →
    ∀ calls, .deed (.onStore s.2.stores.next .close) ∉ calls →
      Scene.MapsUnits (((Deed.openStore l path options).run s).2.called calls) s.2.stores.next
        mappings

namespace Store.OpenWith

variable {store : Store Archive} {mappings : List (String × String)} {contents : StoreContents}

theorem mapsUnits (h : store.OpenWith mappings contents s) :
  s.MapsUnits store.ref mappings
  := by
  obtain ⟨e, x, he, rfl, hx, hmappings, rfl⟩ := h.held
  refine ⟨e, x, he, hx, hmappings, fun name unit hzero hunit => ?_⟩
  have hinfo := (unit_answers h.honest name s.2 h.presents).1
  rw [Text.checked, if_neg hzero, StoreContents.openUnit, hunit] at hinfo
  refine ⟨unit.info (remap mappings), hinfo, unit.copiedAs_info mappings, ?_⟩
  rintro rfl
  rfl

end Store.OpenWith

/-- A store has the mappings of the moment when it is opened as long as it is open. -/
theorem Scene.opensMapping {disk : Disk} {calls : List Call}
    (hreached : s = (Scene.start disk).called calls) (options : Option OptionsRef) :
  s.OpensMapping options (s.1.mappings options)
  := by
  intro l path hok more hclose
  obtain ⟨-, -, contents, hread⟩ := Deed.of_run_openStore hok
  obtain ⟨contents', hlater⟩ := (Store.OpenWith.opened hreached hok hread).called hclose
  exact hlater.mapsUnits

/-- Whatever is done, the options that have been created have the mappings that have been added and
not been refused, and so has the library, until they are disposed of. A store that is opened with
them has the mappings of that moment as long as it is open. One that is opened without options, at
any time, has none. -/
theorem Options.mappings_inStep (disk : Disk) (calls : List Call) (l : Library Archive)
    (later : List Call) :
  let s := (Scene.start disk).called calls
  let options := s.2.options.next
  let now := ((Call.deed (.createOptions l)).run s).called later
  let added := later.filterMap (Call.adds? options)
  .deed (.disposeOptions options) ∉ later →
    now.1.option? options = some ⟨l.withArchive l.convention, options, added⟩
      ∧ now.2.options.get? options = some added
      ∧ (∀ source target, ((Deed.addMapping options source target).run now).1
          = Text.checked source (Text.quoted source)
              (Text.checked target (Text.quoted target) (.ok ())))
      ∧ now.OpensMapping (some options) added
      ∧ s.OpensMapping none []
  := by
  intro s options now added hkept
  have hreached : now = (Scene.start disk).called (calls ++ .deed (.createOptions l) :: later) :=
    (Scene.called_append _ calls (.deed (.createOptions l) :: later)).symm
  have hs : s.Sound := Scene.called_sound (Scene.start_sound disk) calls
  have hmapped : s.Mapped := (Scene.Mapped.start disk).called (Scene.start_sound disk) calls
  have hcreated : Scene.Sound ((Call.deed (.createOptions l)).run s) :=
    Call.run_sound hs (.deed (.createOptions l))
  have hheld : now.1.option? options = some ⟨l.withArchive l.convention, options, added⟩ :=
    Call.option?_called hcreated (hmapped.option?_created l) hkept
  have hnow : now.Mapped := (hmapped.call hs _).called hcreated later
  have hmappings : now.1.mappings (some options) = added := Holdings.mappings_of_option? hheld
  refine ⟨hheld, hnow.get?_of_option? hheld, Deed.addMapping_answer hheld, ?_, ?_⟩
  · rw [← hmappings]
    exact Scene.opensMapping hreached (some options)
  · exact Scene.opensMapping rfl none

/-- Two of four mappings are refused, one for each of its texts. The first one of the others is used
where both fit. One more mapping and the end of the options make no difference to the store. -/
theorem Options.mappings_inStep_refused :
  let unit : UnitEntry := { name := "u", mainFile := some "/a/b/main.c", workingDir := "/c" }
  let contents : StoreContents := { units := [unit] }
  let disk : Disk := .holding "stores" (some contents.document)
  let l : Library Archive := .ofArchive .closure
  let later := Scene.adding 0 [("/a", "/x"), ("/c\x00", "/y"), ("/c", "/y\x00"), ("/a/b", "/z")]
  let now := ((Call.deed (.createOptions l)).run (Scene.start disk)).called later
  let opening := (Deed.openStore l "stores" (some 0)).run now
  let s := opening.2.called [.deed (.addMapping 0 "/c" "/y"), .deed (.disposeOptions 0)]
  let added := [("/a", "/x"), ("/a/b", "/z")]
  .deed (.disposeOptions 0) ∉ later
    ∧ now.1.option? 0 = some ⟨l.withArchive l.convention, 0, added⟩
    ∧ now.2.options.get? 0 = some added
    ∧ opening.1 = .ok ()
    ∧ ∃ e copy, s.1.store? now.2.stores.next = some e
      ∧ (e.store.withUnit "u" UnitReader.info s.2).1 = .ok copy ∧ unit.CopiedAs added copy
  := by
  intro unit contents disk l later now opening s added
  have hkept : .deed (.disposeOptions 0) ∉ later := by simp [later, Scene.adding]
  have hadded : later.filterMap (Call.adds? 0) = added := by decide
  obtain ⟨hheld, hlibrary, -, hopens, -⟩ :
      now.1.option? 0 = some ⟨l.withArchive l.convention, 0, later.filterMap (Call.adds? 0)⟩
        ∧ now.2.options.get? 0 = some (later.filterMap (Call.adds? 0)) ∧ _
        ∧ now.OpensMapping (some 0) (later.filterMap (Call.adds? 0)) ∧ _ :=
    mappings_inStep disk [] l later hkept
  rw [hadded] at hheld hlibrary hopens
  have hreached : now = (Scene.start disk).called (.deed (.createOptions l) :: later) :=
    (Scene.called_append _ [.deed (.createOptions l)] later).symm
  have hread : now.2.disk.readStore "stores" = .ok contents := by
    have hcreated : Scene.Sound ((Call.deed (.createOptions l)).run (Scene.start disk)) :=
      Call.run_sound (Scene.start_sound disk) (.deed (.createOptions l))
    rw [Scene.disk_adding hcreated]
    exact Disk.readStore_holding contents.ofDocument?_document
  clear_value now
  have hsame : (l.withArchive l.convention).same l = true := rfl
  have hpath : '\x00' ∉ "stores".toList := by decide
  obtain ⟨hok, hopened⟩ := Store.OpenWith.of_option? hreached hheld hsame hpath hread
  have hadd := hopened.later (c := .deed (.addMapping 0 "/c" "/y")) (by simp)
  have hdispose := hadd.later (c := .deed (.disposeOptions 0)) (by simp)
  obtain ⟨-, x, -, -, hx, -, hcontents⟩ := hdispose.held
  obtain ⟨e, x', he, hx', -, hmaps⟩ := hopens l "stores" hok
    [.deed (.addMapping 0 "/c" "/y"), .deed (.disposeOptions 0)] (by simp)
  obtain rfl := Option.some.inj (hx.symm.trans hx')
  have hunit : x.contents.unit? "u" = some unit := by
    rw [hcontents]
    rfl
  obtain ⟨copy, hcopy, hcopied, -⟩ := hmaps "u" unit (by decide) hunit
  exact ⟨hkept, hheld, hlibrary, hok, e, copy, he, hcopy, hcopied⟩

end SymbolIndex
