import SymbolIndex.Proofs.Isolation.AddedMappings
import SymbolIndex.Proofs.Isolation.OpenRecords
import SymbolIndex.Proofs.Isolation.Outputs

/-!
# Open stores

A store that has been opened keeps the mappings of the options with which it has been opened, and
holds what is left by the operations on it of what was on the disk, until it is closed.
-/

namespace SymbolIndex

variable {s : Scene} {ref : StoreRef}

/-- A store that has been opened with some mappings and has not been closed since, and what it
holds. -/
inductive Store.OpenWith :
    Store Archive → List (String × String) → StoreContents → Scene → Prop where
  | opened {s : Scene} {disk : Disk} {calls : List Call}
      (hreached : s = (Scene.start disk).called calls) {l : Library Archive} {path : String}
      {options : Option OptionsRef} (hok : ((Deed.openStore l path options).run s).1 = .ok ())
      {contents : StoreContents} (hread : s.2.disk.readStore path = .ok contents) :
      OpenWith ⟨l.withArchive l.convention, s.2.stores.next, path⟩ (s.1.mappings options) contents
        ((Deed.openStore l path options).run s).2
  | later {store : Store Archive} {mappings : List (String × String)} {contents : StoreContents}
      {s : Scene} (h : OpenWith store mappings contents s) {c : Call}
      (hclose : c ≠ .deed (.onStore store.ref .close)) :
      OpenWith store mappings ((c.on? store.ref).elim contents contents.after) (c.run s)

/-! ### Stores that are held -/

/-- An operation that does not close a store leaves it in its place. -/
theorem StoreDeed.store_act {e : EventStore Archive} {x : ArchiveStore}
    (honest : e.store.library.Honest) (he : s.1.store? e.store.ref = some e)
    (hx : s.2.stores.get? e.store.ref = some x) {deed : StoreDeed} (hclose : deed ≠ .close) :
  ∃ e', (deed.act e s).2.1.store? e.store.ref = some e' ∧ e'.store = e.store
  := by
  by_cases hturns : deed.turns = true
  · refine ⟨e, ?_, rfl⟩
    rw [Holdings.store?, stores_of_turns honest hx hturns]
    exact he
  · cases deed with
    | close => exact absurd rfl hclose
    | setHandler journal => exact ⟨_, Holdings.store?_update he rfl, rfl⟩
    | subscribe =>
        rw [act_subscribe]
        exact ⟨_, Holdings.store?_update he rfl, rfl⟩
    | _ => exact absurd rfl hturns

/-- A store is held until it is closed. -/
theorem Call.store_run (hs : s.Sound) {e : EventStore Archive} (he : s.1.store? ref = some e)
    {c : Call} (hclose : c ≠ .deed (.onStore ref .close)) :
  ∃ e', (c.run s).1.store? ref = some e' ∧ e'.store = e.store
  := by
  obtain ⟨rfl, hmem, honest, x, hx⟩ := hs.store_held he
  cases hon : c.on? e.store.ref with
  | none => exact ⟨e, (c.keepsStore hs (hs.store_lt hmem) hon).held.trans he, rfl⟩
  | some deed =>
      obtain rfl := Call.of_on? hon
      have hopen : deed ≠ .close := by
        rintro rfl
        exact hclose rfl
      rw [run, Deed.run_onStore he]
      exact StoreDeed.store_act (s := (s.1.note _, s.2)) honest he hx hopen

/-! ### Stores that are open -/

namespace Store.OpenWith

variable {store : Store Archive} {mappings : List (String × String)} {contents : StoreContents}

theorem reached (h : store.OpenWith mappings contents s) :
  ∃ disk calls, s = (Scene.start disk).called calls
  := by
  induction h with
  | @opened s disk calls hreached l path options =>
      refine ⟨disk, calls ++ [.deed (.openStore l path options)], ?_⟩
      rw [Scene.called_concat, hreached]
      rfl
  | @later store mappings contents s _ c _ ih =>
      obtain ⟨disk, calls, rfl⟩ := ih
      exact ⟨disk, calls ++ [c], ((Scene.start disk).called_concat calls c).symm⟩

theorem sound (h : store.OpenWith mappings contents s) :
  s.Sound
  := by
  obtain ⟨disk, calls, rfl⟩ := h.reached
  exact Scene.called_sound (Scene.start_sound disk) calls

theorem store_eq (h : store.OpenWith mappings contents s) :
  ∃ e, s.1.store? store.ref = some e ∧ e.store = store
  := by
  induction h with
  | @opened s disk calls hreached l path options hok contents hread =>
      have hs : s.Sound := hreached ▸ Scene.called_sound (Scene.start_sound disk) calls
      obtain ⟨haccepts, hzero, -⟩ := Deed.of_run_openStore hok
      rw [Deed.run_openStore_of haccepts hzero hread]
      exact ⟨_, Scene.store?_opened hs contents, rfl⟩
  | later h hclose ih =>
      obtain ⟨e, he, hstore⟩ := ih
      obtain ⟨e', he', hsame⟩ := Call.store_run h.sound he hclose
      exact ⟨e', he', hsame.trans hstore⟩

/-- A store that can be read is opened with options of its library. -/
theorem of_option? {disk : Disk} {calls : List Call}
    (hreached : s = (Scene.start disk).called calls) {options : OptionsRef} {o : Options Archive}
    (ho : s.1.option? options = some o) {l : Library Archive} (hsame : o.library.same l = true)
    {path : String} (hzero : '\x00' ∉ path.toList) (hread : s.2.disk.readStore path = .ok contents) :
  let opening := (Deed.openStore l path (some options)).run s
  opening.1 = .ok ()
    ∧ OpenWith ⟨l.withArchive l.convention, s.2.stores.next, path⟩ o.mappings contents opening.2
  := by
  intro opening
  have haccepts : s.Accepts l (some options) := by
    intro o' ho'
    obtain rfl := Option.some.inj (ho.symm.trans ho')
    exact hsame
  have hok : opening.1 = .ok () :=
    congrArg Prod.fst (Deed.run_openStore_of haccepts hzero hread)
  have hopened := opened hreached hok hread
  rw [Holdings.mappings_of_option? ho] at hopened
  exact ⟨hok, hopened⟩

/-- What becomes of a store that is open can be said of the store by itself. -/
theorem bears (h : store.OpenWith mappings contents s) :
  ∃ names handle, s.Bears store.ref names (some handle)
    ∧ handle.mappings = mappings ∧ handle.contents = contents
  := by
  induction h with
  | @opened s disk calls hreached l path options hok contents hread =>
      have hs : s.Sound := hreached ▸ Scene.called_sound (Scene.start_sound disk) calls
      have hmapped : s.Mapped :=
        hreached ▸ (Scene.Mapped.start disk).called (Scene.start_sound disk) calls
      obtain ⟨haccepts, hzero, -⟩ := Deed.of_run_openStore hok
      rw [Deed.run_openStore_of haccepts hzero hread]
      exact ⟨_, _, Scene.bears_opened hs contents, hmapped.mappings_eq options, rfl⟩
  | @later store mappings contents s h c hclose ih =>
      obtain ⟨names, handle, hbears, hmappings, hcontents⟩ := ih
      have hcall := hbears.call h.sound c
      cases hon : c.on? store.ref with
      | none =>
          rw [hon] at hcall
          exact ⟨_, handle, hcall, hmappings, hcontents⟩
      | some deed =>
          obtain rfl := Call.of_on? hon
          have hopen : deed ≠ .close := fun h => hclose (by rw [h])
          obtain ⟨handle', hafter, hmappings', hcontents'⟩ := handle.after_open hopen
          rw [hon, Option.toList_some, Handle.afterAll, List.foldl_cons, List.foldl_nil,
            Option.bind_some, hafter] at hcall
          refine ⟨_, handle', hcall, hmappings'.trans hmappings, hcontents'.trans ?_⟩
          rw [hcontents]
          rfl

/-- A store that is open is held, by the client and by the library. -/
theorem held (h : store.OpenWith mappings contents s) :
  ∃ e x, s.1.store? store.ref = some e ∧ e.store = store
    ∧ s.2.stores.get? store.ref = some x ∧ x.mappings = mappings ∧ x.contents = contents
  := by
  obtain ⟨e, he, hstore⟩ := h.store_eq
  obtain ⟨names, handle, ⟨e', x, -, hx, hd⟩, hmappings, hcontents⟩ := h.bears
  exact ⟨e, x, he, hstore, hx, hd.mappings.trans hmappings, hd.contents.trans hcontents⟩

theorem honest (h : store.OpenWith mappings contents s) :
  store.library.Honest
  := by
  obtain ⟨e, x, he, rfl, -⟩ := h.held
  obtain ⟨-, -, honest, -⟩ := h.sound.store_held he
  exact honest

theorem presents (h : store.OpenWith mappings contents s) :
  s.2.Presents store.ref mappings contents
  := by
  obtain ⟨e, x, -, -, hx, rfl, rfl⟩ := h.held
  exact h.sound.archive.presents hx

/-- What an operation that does not close the store leaves. -/
theorem after (h : store.OpenWith mappings contents s) (deed : StoreDeed) (hopen : deed ≠ .close) :
  store.OpenWith mappings (contents.after deed) (s.after store.ref deed)
  := by
  have hclose : Call.deed (.onStore store.ref deed) ≠ .deed (.onStore store.ref .close) := by
    intro hsame
    injection hsame with hsame
    injection hsame with _ hsame
    exact hopen hsame
  have hlater := h.later hclose
  rw [Call.on?, if_pos rfl] at hlater
  exact hlater

theorem called (h : store.OpenWith mappings contents s) {calls : List Call}
    (hclose : .deed (.onStore store.ref .close) ∉ calls) :
  ∃ contents', store.OpenWith mappings contents' (s.called calls)
  := by
  induction calls generalizing s contents with
  | nil => exact ⟨contents, h⟩
  | cons c calls ih =>
      rw [List.mem_cons, not_or] at hclose
      exact ih (h.later (Ne.symm hclose.1)) hclose.2

/-! ### Opening readers -/

variable {name : String}

theorem opensRecord (h : store.OpenWith mappings contents s) (hzero : '\x00' ∉ name.toList)
    {entry : RecordEntry} (hentry : contents.openRecord name = .ok entry) :
  RecordReader.OpenIn ⟨store, s.2.records.next, name⟩ entry (s.after store.ref (.openRecord name))
  := by
  obtain ⟨disk, calls, hreached⟩ := h.reached
  obtain ⟨e, x, he, rfl, hx, -, rfl⟩ := h.held
  exact .opened hreached he hx hzero hentry

/-- A record is opened if it can be. -/
theorem openRecord_of_ok (h : store.OpenWith mappings contents s) (hzero : '\x00' ∉ name.toList)
    {entry : RecordEntry} (hentry : contents.openRecord name = .ok entry) :
  RecordReader.openIn store name s.2
    = (.ok ⟨store, s.2.records.next, name⟩, (s.after store.ref (.openRecord name)).2)
  := by
  have hopening := RecordReader.openIn_opening h.honest name s.2 h.presents
  rw [Text.checked, if_neg hzero, hentry] at hopening
  obtain ⟨r, a, hopened, -⟩ := hopening
  obtain ⟨e, x, he, rfl, hx, -, -⟩ := h.held
  obtain ⟨rfl, -⟩ := RecordReader.of_openIn h.honest hx hopened
  rw [Scene.after, Deed.run_onStore he, StoreDeed.act, Scene.use, hopened]

theorem openRecord_of_error (h : store.OpenWith mappings contents s) (hzero : '\x00' ∉ name.toList)
    {halt : Halt} (hrefused : contents.openRecord name = .error halt) :
  (RecordReader.openIn store name s.2).1 = .error halt
  := by
  have hopening := RecordReader.openIn_opening h.honest name s.2 h.presents
  rw [Text.checked, if_neg hzero, hrefused] at hopening
  exact hopening.1

/-- A unit is opened if it is there, and it is shown as it is then. -/
theorem openUnit_of_ok (h : store.OpenWith mappings contents s) (hzero : '\x00' ∉ name.toList)
    {unit : UnitEntry} (hunit : contents.openUnit name = .ok unit) :
  let u : UnitReader Archive := ⟨store, s.2.units.next, name⟩
  UnitReader.openIn store name s.2 = (.ok u, (s.after store.ref (.openUnit name)).2)
    ∧ (s.after store.ref (.openUnit name)).HasUnit u mappings unit
  := by
  have hopening := UnitReader.openIn_opening h.honest name s.2 h.presents
  rw [Text.checked, if_neg hzero, hunit] at hopening
  obtain ⟨u, a, hopened, -⟩ := hopening
  obtain ⟨e, x, he, rfl, hx, rfl, rfl⟩ := h.held
  obtain ⟨rfl, -⟩ := UnitReader.of_openIn h.honest hx hopened
  have hok : s.Succeeds e.store.ref (.openUnit name) := by
    rw [Scene.Succeeds, Deed.run_onStore he, StoreDeed.act, Scene.use, hopened]
  constructor
  · rw [Scene.after, Deed.run_onStore he, StoreDeed.act, Scene.use, hopened]
  · obtain ⟨found, hfound, hhas⟩ := Scene.hasUnit_opened h.sound he hx hok
    obtain rfl := Except.ok.inj (hunit.symm.trans hfound)
    exact hhas

theorem openUnit_of_error (h : store.OpenWith mappings contents s) (hzero : '\x00' ∉ name.toList)
    {halt : Halt} (hrefused : contents.openUnit name = .error halt) :
  (UnitReader.openIn store name s.2).1 = .error halt
  := by
  have hopening := UnitReader.openIn_opening h.honest name s.2 h.presents
  rw [Text.checked, if_neg hzero, hrefused] at hopening
  exact hopening.1

theorem unitTime_eq (h : store.OpenWith mappings contents s) (hzero : '\x00' ∉ name.toList) :
  (store.unitTime name s.2).1 = contents.timeOf name
  := by
  have htime := (unitTime_answers h.honest name s.2 h.presents).1
  rw [Text.checked, if_neg hzero] at htime
  exact htime

end Store.OpenWith

/-! ### Every contents and mappings -/

/-- A store can be opened with any mappings, and it can hold anything. -/
theorem Store.exists_openWith (contents : StoreContents) (mappings : List (String × String))
    (hzero : ∀ m ∈ mappings, '\x00' ∉ m.1.toList ∧ '\x00' ∉ m.2.toList) :
  ∃ (store : Store Archive) (s : Scene), store.OpenWith mappings contents s
  := by
  let l : Library Archive := .ofArchive .closure
  let disk : Disk := .holding "stores" (some contents.document)
  let s₀ : Scene := (Scene.start disk).called [.deed (.createOptions l)]
  let o : Options Archive := { library := l.withArchive l.convention, ref := 0 }
  let s : Scene := s₀.called (Scene.adding 0 mappings)
  have hs₀ : s₀.Sound := Scene.called_sound (Scene.start_sound disk) [.deed (.createOptions l)]
  have hfound : s.1.option? 0 = some { o with mappings := mappings } :=
    Scene.option?_adding (o := o) hs₀ rfl hzero
  have hreached : s = (Scene.start disk).called
      (.deed (.createOptions l) :: Scene.adding 0 mappings) :=
    (Scene.called_append _ [.deed (.createOptions l)] (Scene.adding 0 mappings)).symm
  have hread : s.2.disk.readStore "stores" = .ok contents := by
    rw [Scene.disk_adding hs₀]
    exact Disk.readStore_holding contents.ofDocument?_document
  have hsame : o.library.same l = true := rfl
  have hpath : '\x00' ∉ "stores".toList := by decide
  obtain ⟨-, hopened⟩ := OpenWith.of_option? hreached hfound hsame hpath hread
  exact ⟨_, _, hopened⟩

/-- Every record that holds the symbols to which it refers can be opened: it is the only one in a
store that is on a disk. -/
theorem RecordReader.exists_openIn {entry : RecordEntry} (hzero : '\x00' ∉ entry.name.toList)
    (hwhole : entry.missingSymbol? = none) :
  ∃ (r : RecordReader Archive) (s : Scene), r.OpenIn entry s
  := by
  let contents : StoreContents := { records := [entry] }
  have hentry : contents.openRecord entry.name = .ok entry := by
    simp [StoreContents.openRecord, StoreContents.record?, contents, hwhole]
  obtain ⟨store, s, h⟩ := Store.exists_openWith contents [] (by simp)
  exact ⟨_, _, h.opensRecord hzero hentry⟩

end SymbolIndex
