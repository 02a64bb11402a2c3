import SymbolIndex.Contents.Sample
import SymbolIndex.Proofs.Isolation.Snapshots
import SymbolIndex.Report.Command

/-!
# Units of output files

The unit that has been written for an output file is found under the name that a store gives for
the file, as long as the store is open and the unit has not been discarded through it.
-/

namespace SymbolIndex

open Archive (Presents)

variable {ref : StoreRef} {mappings : List (String × String)} {c : StoreContents}

/-! ### Names of units -/

theorem zero_notMem_hexadecimal (n : Nat) :
  '\x00' ∉ Text.hexadecimal n
  := by
  rw [Text.hexadecimal]
  induction n using Nat.strongRecOn with
  | ind n ih =>
      rw [Nat.toDigits_eq_if (by decide)]
      split
      case isTrue => simp
      case isFalse hge =>
          have hrest := ih (n / 16) (Nat.div_lt_self (by omega) (by decide))
          simp [hrest]

/-- The name of the unit of a file can be asked for if the path of the file can. -/
theorem zero_notMem_unitName {outputPath : String} (h : '\x00' ∉ outputPath.toList) :
  '\x00' ∉ (unitName outputPath).toList
  := by
  have hfile : '\x00' ∉ fileName outputPath.toList := by
    rw [fileName, List.mem_reverse]
    intro hmem
    exact h (List.mem_reverse.mp ((List.takeWhile_subset _) hmem))
  have hhash : '\x00' ∉ hashText (hash (Text.octets outputPath)) := by
    have hdigits := zero_notMem_hexadecimal (hash (Text.octets outputPath)).toNat
    simp [hashText, hdigits]
  simp [unitName, hfile, hhash]

/-! ### Units that stay -/

namespace StoreContents

/-- A unit is there until it is discarded. -/
theorem unit?_after {name : String} {deed : StoreDeed} (h : deed ≠ .discardUnit name) :
  (c.after deed).unit? name = c.unit? name
  := by
  cases deed with
  | discardUnit unit =>
      have hname : unit ≠ name := fun hname => h (congrArg StoreDeed.discardUnit hname)
      simp only [after, StoreDeed.request?, Option.elim_some, change]
      split
      · rfl
      · exact unit?_discardUnit hname
  | discardRecord record =>
      simp only [after, StoreDeed.request?, Option.elim_some, change]
      split <;> rfl
  | _ => rfl

end StoreContents

namespace Handle

variable {name : String}

theorem mappings_turned (h : Handle) (t : Turn) :
  (h.turned t).mappings = h.mappings
  := by
  cases t with
  | began wait => cases wait <;> rfl
  | _ => rfl

/-- What is left of a store that is not closed has its mappings and what the operation leaves of its
contents. -/
theorem after_open (h : Handle) {deed : StoreDeed} (hclose : deed ≠ .close) :
  ∃ h', h.after deed = some h' ∧ h'.mappings = h.mappings
    ∧ h'.contents = h.contents.after deed
  := by
  cases deed with
  | close => exact absurd rfl hclose
  | setHandler _ => exact ⟨_, rfl, rfl, rfl⟩
  | subscribe =>
      refine ⟨_, rfl, ?_, ?_⟩ <;> split <;> rfl
  | _ => exact ⟨_, rfl, h.mappings_turned _, rfl⟩

/-- The units that have not been discarded are left. -/
theorem after_keeps (h : Handle) {deed : StoreDeed} (hclose : deed ≠ .close)
    (hdiscard : deed ≠ .discardUnit name) :
  ∃ h', h.after deed = some h' ∧ h'.mappings = h.mappings
    ∧ h'.contents.unit? name = h.contents.unit? name
  := by
  obtain ⟨h', hafter, hmappings, hcontents⟩ := h.after_open hclose
  exact ⟨h', hafter, hmappings, hcontents ▸ StoreContents.unit?_after hdiscard⟩

theorem afterAll_keeps (h : Handle) {deeds : List StoreDeed} (hclose : .close ∉ deeds)
    (hdiscard : .discardUnit name ∉ deeds) :
  ∃ h', afterAll (some h) deeds = some h' ∧ h'.mappings = h.mappings
    ∧ h'.contents.unit? name = h.contents.unit? name
  := by
  induction deeds generalizing h with
  | nil => exact ⟨h, rfl, rfl, rfl⟩
  | cons deed deeds ih =>
      rw [List.mem_cons, not_or] at hclose hdiscard
      obtain ⟨h', hafter, hmappings, hunit⟩ := h.after_keeps (Ne.symm hclose.1) (Ne.symm hdiscard.1)
      obtain ⟨h'', hafterAll, hmappings', hunit'⟩ := ih h' hclose.2 hdiscard.2
      refine ⟨h'', ?_, hmappings'.trans hmappings, hunit'.trans hunit⟩
      rw [afterAll, List.foldl_cons, Option.bind_some, hafter]
      exact hafterAll

end Handle

theorem Scene.mem_doneWith {calls : List Call} {deed : StoreDeed} (h : deed ∈ doneWith ref calls) :
  .deed (.onStore ref deed) ∈ calls
  := by
  obtain ⟨c, hc, hon⟩ := List.mem_filterMap.mp h
  rw [← Call.of_on? hon]
  exact hc

/-! ### What a store says of an output file -/

namespace Store

/-- A store names the unit of an output file, and says whether it is there. Only for a name that
is too long for any room it panics instead. -/
structure NamesUnit (store : Store Archive) (a : Archive) (i : UnitNameInfo) : Prop where
  name : (store.unitName i.outputPath a).1 = Access.told i.unitName
  info : (store.unitNameInfo i.outputPath a).1 = (Access.told i.unitName).map fun _ => i
  report : ((Command.unitName i.outputPath).report store a).1
    = (Access.told i.unitName).map fun _ => { lines := [i.line], json := i.json }

variable {store : Store Archive} (honest : store.library.Honest) {outputPath : String}

include honest

theorem unitNameInfo_answers (hzero : '\x00' ∉ outputPath.toList) :
  (store.unitNameInfo outputPath).Answers (Presents store.ref mappings c)
    ((Access.told (SymbolIndex.unitName outputPath)).map fun _ =>
      ⟨outputPath, SymbolIndex.unitName outputPath,
        (c.unit? (SymbolIndex.unitName outputPath)).isSome⟩)
  := by
  have hname := unitName_answers (P := Presents store.ref mappings c) honest outputPath
  have hnames : (store.unitNames false).Answers (Presents store.ref mappings c) (.ok c.unitNames) :=
    unitNames_answers honest false
  have hpresent : c.unitNames.contains (SymbolIndex.unitName outputPath)
      = (c.unit? (SymbolIndex.unitName outputPath)).isSome := by
    rw [Bool.eq_iff_iff, List.contains_iff_mem, StoreContents.mem_unitNames]
  rw [Text.checked, if_neg hzero] at hname
  have htold := Access.told_bind (SymbolIndex.unitName outputPath) fun name =>
    (⟨outputPath, name, c.unitNames.contains name⟩ : UnitNameInfo)
  rw [← hpresent, ← htold]
  exact hname.bind fun name => hnames.bind fun names => Access.answers_pure _

theorem namesUnit {a : Archive} (ha : a.Presents store.ref mappings c)
    (hzero : '\x00' ∉ outputPath.toList) :
  store.NamesUnit a ⟨outputPath, SymbolIndex.unitName outputPath,
    (c.unit? (SymbolIndex.unitName outputPath)).isSome⟩
  := by
  have hname := unitName_answers honest outputPath a ha
  have hinfo : (store.unitNameInfo outputPath).Answers (Presents store.ref mappings c) _ :=
    unitNameInfo_answers honest hzero
  rw [Text.checked, if_neg hzero] at hname
  refine ⟨hname.1, (hinfo a ha).1, ?_⟩
  have hreport := ((hinfo.bind fun info =>
    Access.answers_pure (⟨[info.line], info.json⟩ : Report)) a ha).1
  rw [Access.told_map_bind] at hreport
  exact hreport

/-- The unit of a name is opened and copied if it is there, and not opened if it is not. -/
theorem opens_unit {a : Archive} (ha : a.Presents store.ref mappings c) {name : String}
    (hzero : '\x00' ∉ name.toList) :
  match c.unit? name with
  | some u => ∃ r a', UnitReader.openIn store name a = (.ok r, a')
    ∧ (r.info a').1 = .ok (u.info (remap mappings))
  | none => (UnitReader.openIn store name a).1
    = StoreError.answer "unit_reader_create" ("unit not found: " ++ name)
  := by
  have hopening := UnitReader.openIn_opening honest name a ha
  rw [Text.checked, if_neg hzero, StoreContents.openUnit] at hopening
  cases hunit : c.unit? name with
  | none =>
      rw [hunit] at hopening
      exact hopening.1
  | some u =>
      rw [hunit] at hopening
      obtain ⟨r, a', hopened, ⟨hstore, hname, hshows⟩, -⟩ := hopening
      have honest' : r.library.Honest := UnitReader.honest_of_store honest hstore
      exact ⟨r, a', hopened, congrArg Prod.fst (UnitReader.info_eq honest' hshows hname)⟩

end Store

/-! ### Units that have been written -/

namespace Scene

variable {s : Scene}

/-- A store that is opened has the units that it is opened on until it is closed, but for those that
are discarded through it. -/
theorem Sound.keepsUnit (hs : s.Sound) {l : Library Archive} {path : String}
    {options : Option OptionsRef} (hok : ((Deed.openStore l path options).run s).1 = .ok ())
    {contents : StoreContents} (hread : s.2.disk.readStore path = .ok contents) {name : String}
    {later : List Call} (hclose : .deed (.onStore s.2.stores.next .close) ∉ later)
    (hdiscard : .deed (.onStore s.2.stores.next (.discardUnit name)) ∉ later) :
  let s' := ((Deed.openStore l path options).run s).2.called later
  ∃ e x, s'.1.store? s.2.stores.next = some e ∧ s'.2.stores.get? s.2.stores.next = some x
    ∧ x.mappings = s.mappings options ∧ x.contents.unit? name = contents.unit? name
  := by
  intro s'
  obtain ⟨contents', hread', hfollows⟩ := hs.isolated.stores l path options hok
  obtain rfl := Except.ok.inj (hread.symm.trans hread')
  have hdiscarded : .discardUnit name ∉ doneWith s.2.stores.next later :=
    fun h => hdiscard (mem_doneWith h)
  obtain ⟨h, hafter, hmappings, hunit⟩ := Handle.afterAll_keeps
    { mappings := s.mappings options, contents } (fun h => hclose (mem_doneWith h)) hdiscarded
  have hfollows := hfollows later
  simp only [hafter] at hfollows
  obtain ⟨e, he⟩ := Option.isSome_iff_exists.mp hfollows.held
  obtain ⟨x, hx, hmappings', hcontents⟩ := hfollows.holds h rfl
  exact ⟨e, x, he, hx, hmappings'.trans hmappings, hcontents ▸ hunit⟩

section

variable {e : EventStore Archive} {outputPath : String} (hs : s.Sound)
  (he : s.1.store? ref = some e) (hzero : '\x00' ∉ outputPath.toList)

include hs he hzero

/-- The unit of an output file is found if it is there. -/
theorem Sound.findsUnit {x : ArchiveStore} (hx : s.2.stores.get? ref = some x) {u : UnitEntry}
    (hu : x.contents.unit? (unitName outputPath) = some u) :
  e.store.NamesUnit s.2 ⟨outputPath, unitName outputPath, true⟩
    ∧ ∃ r a, UnitReader.openIn e.store (unitName outputPath) s.2 = (.ok r, a)
      ∧ (r.info a).1 = .ok (u.info (remap x.mappings))
  := by
  obtain ⟨rfl, -, honest, -⟩ := hs.store_held he
  have hpresents := hs.archive.presents hx
  have hnames := Store.namesUnit honest hpresents hzero
  have hopens := Store.opens_unit honest hpresents (zero_notMem_unitName hzero)
  rw [hu] at hnames hopens
  exact ⟨hnames, hopens⟩

/-- The unit of an output file is said to be there exactly if it can be opened. -/
theorem Sound.presentsUnit :
  ∃ present, e.store.NamesUnit s.2 ⟨outputPath, unitName outputPath, present⟩
    ∧ (present = true ↔ ∃ r a, UnitReader.openIn e.store (unitName outputPath) s.2 = (.ok r, a))
  := by
  obtain ⟨-, -, honest, x, hx⟩ := hs.store_held he
  cases hunit : x.contents.unit? (unitName outputPath) with
  | some u =>
      obtain ⟨hnames, r, a, hopened, -⟩ := hs.findsUnit he hzero hx hunit
      exact ⟨true, hnames, fun _ => ⟨r, a, hopened⟩, fun _ => rfl⟩
  | none =>
      obtain ⟨rfl, -⟩ := hs.store_held he
      have hpresents := hs.archive.presents hx
      have hnames := Store.namesUnit honest hpresents hzero
      have hrefused := Store.opens_unit honest hpresents (zero_notMem_unitName hzero)
      rw [hunit] at hnames hrefused
      refine ⟨false, hnames, nofun, ?_⟩
      rintro ⟨r, a, hopened⟩
      rw [hopened] at hrefused
      cases hrefused

end

/-- The unit that has been written for an output file is found by the path of the file, in any
store that is opened on it, whatever is done then other than to close the store or to discard the
unit through it. And the unit of an output file is said to be there in a store exactly if it can be
opened. -/
theorem unitName_found (disk : Disk) (calls : List Call) {outputPath : String}
    (hzero : '\x00' ∉ outputPath.toList) :
  let s := (start disk).called calls
  let name := unitName outputPath
  (∀ l path options, ((Deed.openStore l path options).run s).1 = .ok () →
      ∀ contents, s.2.disk.readStore path = .ok contents → name ∈ contents.unitNames →
    ∃ u, contents.unit? name = some u ∧ ∀ later,
      .deed (.onStore s.2.stores.next .close) ∉ later →
      .deed (.onStore s.2.stores.next (.discardUnit name)) ∉ later →
    let s' := ((Deed.openStore l path options).run s).2.called later
    ∃ e, s'.1.store? s.2.stores.next = some e
      ∧ e.store.NamesUnit s'.2 ⟨outputPath, name, true⟩
      ∧ ∃ r a, UnitReader.openIn e.store name s'.2 = (.ok r, a)
        ∧ (r.info a).1 = .ok (u.info (remap (s.mappings options))))
    ∧ ∀ ref e, s.1.store? ref = some e → ∃ present,
      e.store.NamesUnit s.2 ⟨outputPath, name, present⟩
        ∧ (present = true ↔ ∃ r a, UnitReader.openIn e.store name s.2 = (.ok r, a))
  := by
  intro s name
  have hs : s.Sound := called_sound (start_sound disk) calls
  refine ⟨fun l path options hok contents hread hmem => ?_, fun ref e he => ?_⟩
  · obtain ⟨u, hu⟩ := Option.isSome_iff_exists.mp (StoreContents.mem_unitNames.mp hmem)
    refine ⟨u, hu, fun later hclose hdiscard => ?_⟩
    intro s'
    have hs' : s'.Sound := called_sound ((Deed.openStore l path options).run_leads s hs).1 later
    obtain ⟨e, x, he, hx, hmappings, hunit⟩ := hs.keepsUnit hok hread hclose hdiscard
    have hfound := hs'.findsUnit he hzero hx (hunit.trans hu)
    rw [hmappings] at hfound
    exact ⟨e, he, hfound⟩
  · exact hs.presentsUnit he hzero

/-- The path is longer than the room in which a name is asked for first. -/
theorem unitName_found_long :
  let outputPath := String.ofList (List.replicate 300 'o')
  let unit := UnitEntry.forOutput outputPath
  let disk : Disk := .holding "stores" (some ({ units := [unit] } : StoreContents).document)
  let opening : Deed := .openStore (.ofArchive .closure) "stores" none
  let s := (start disk).called [.deed opening, .deed (.onStore 0 .purge)]
  '\x00' ∉ outputPath.toList ∧ ∃ e, s.1.store? 0 = some e
    ∧ e.store.NamesUnit s.2 ⟨outputPath, unit.name, true⟩
    ∧ ∃ r a, UnitReader.openIn e.store unit.name s.2 = (.ok r, a)
      ∧ (r.info a).1 = .ok (unit.info (remap []))
  := by
  intro outputPath unit disk opening s
  have hzero : '\x00' ∉ outputPath.toList := by
    rw [String.toList_ofList]
    intro hmem
    cases List.eq_of_mem_replicate hmem
  have hread : disk.readStore "stores" = .ok { units := [unit] } :=
    Disk.readStore_holding (StoreContents.ofDocument?_document _)
  have hopened := congrArg Prod.fst
    (Deed.run_openStore (s := start disk) (l := .ofArchive .closure) Text.terminated?_stores hread)
  obtain ⟨hfound, -⟩ := unitName_found disk [] hzero
  obtain ⟨u, hu, hlater⟩ := hfound (.ofArchive .closure) "stores" none hopened { units := [unit] }
    hread List.mem_cons_self
  obtain rfl : unit = u := by
    rw [StoreContents.unit?, List.find?_cons_of_pos (by exact beq_self_eq_true _)] at hu
    exact Option.some.inj hu
  exact ⟨hzero, hlater [.deed (.onStore 0 .purge)] (by simp) (by simp)⟩

end Scene

end SymbolIndex
