import SymbolIndex.Proofs.Isolation.Bounds

/-!
# What a reader shows

A reader that is open shows the record or the unit as it was in its store when the reader was
opened. What is done with the store later, and with anything else, does not matter.
-/

namespace SymbolIndex

open Text (Octets)

variable {α : Type} {s : Scene}

/-! ### Tables in the course of time -/

/-- The second table is the first one at a later time. What is found under a reference that had
been handed out has been there before. -/
structure Table.Later (t t' : Table α) : Prop where
  next : t.next ≤ t'.next
  found : ∀ ref a, ref < t.next → t'.get? ref = some a → t.get? ref = some a

namespace Table

instance : IsPreorder (Table α) Later where
  refl _ := ⟨Nat.le_refl _, fun _ _ _ => id⟩
  trans _ _ _ h h' := ⟨Nat.le_trans h.next h'.next,
    fun ref a hmade ha =>
      h.found ref a hmade (h'.found ref a (Nat.lt_of_lt_of_le hmade h.next) ha)⟩

variable (t : Table α)

theorem later_insert (a : α) :
  t.Later (t.insert a).2
  := by
  refine ⟨Nat.le_succ _, ?_⟩
  intro ref b hmade hb
  rcases found_insert hb with hb | ⟨rfl, -⟩
  · exact hb
  · exact absurd hmade (Nat.lt_irrefl _)

theorem later_erase (ref : Nat) :
  t.Later (t.erase ref)
  := by
  refine ⟨Nat.le_refl _, ?_⟩
  intro ref' a _ ha
  rw [get?_erase] at ha
  split at ha
  · cases ha
  · exact ha

end Table

namespace Archive

/-- The open readers are those of before, unless they are new. -/
structure Later (a a' : Archive) : Prop where
  records : a.records.Later a'.records
  units : a.units.Later a'.units

instance : IsPreorder Archive Later where
  refl _ := ⟨refl_of Table.Later _, refl_of Table.Later _⟩
  trans _ _ _ h h' :=
    ⟨trans_of Table.Later h.records h'.records, trans_of Table.Later h.units h'.units⟩

variable {a a' : Archive}

theorem later_of_same (hrecords : a'.records = a.records) (hunits : a'.units = a.units) :
  Later a a'
  := by
  constructor
  · rw [hrecords]
    apply refl_of
  · rw [hunits]
    apply refl_of

/-- What only reads opens and closes new readers at most. -/
theorem reads_later :
  Reads Later
  where
  disposeError e a := by
    cases e with
    | own ref =>
        rw [disposeError]
        split <;> exact later_of_same rfl rfl
    | injected n => exact later_of_same rfl rfl
  createRecordReader store octets a := by
    simp only [createRecordReader]
    split
    · exact later_of_same rfl rfl
    · split
      · exact later_of_same rfl rfl
      · split
        · exact later_of_same rfl rfl
        · exact ⟨a.records.later_insert _, refl_of Table.Later _⟩
  disposeRecordReader ref a := by
    rw [disposeRecordReader]
    split
    · apply refl_of
    · exact ⟨a.records.later_erase ref, refl_of Table.Later _⟩
  createUnitReader store octets a := by
    simp only [createUnitReader]
    split
    · exact later_of_same rfl rfl
    · split
      · exact later_of_same rfl rfl
      · exact ⟨refl_of Table.Later _, a.units.later_insert _⟩
  disposeUnitReader ref a := by
    rw [disposeUnitReader]
    split
    · apply refl_of
    · exact ⟨refl_of Table.Later _, a.units.later_erase ref⟩
  unitTime ref octets a := by
    simp only [unitTime]
    split
    · exact later_of_same rfl rfl
    · split <;> exact later_of_same rfl rfl

/-- Whatever the archive does, it leaves the readers that are open as they are, or closes them. -/
theorem bounds_later :
  Bounds Later
  where
  toReads := reads_later
  changeDisk f a := later_of_same rfl rfl
  createStore octets options a := by
    simp only [createStore]
    split <;> exact later_of_same rfl rfl
  disposeStore ref a := by
    rw [disposeStore]
    split
    · apply refl_of
    · exact later_of_same rfl rfl
  withStore ref f a := by
    rw [withStore]
    split
    · apply refl_of
    · exact later_of_same rfl rfl
  startListening ref wait a := by
    simp only [startListening]
    split
    · apply refl_of
    · split
      · apply refl_of
      · split
        · exact later_of_same rfl rfl
        · split <;> exact later_of_same rfl rfl
  changeContents ref f a := by
    rw [changeContents]
    split
    · apply refl_of
    · exact later_of_same rfl rfl
  countQuery ref selection a := by
    rw [countQuery.eq_def]
    split <;> exact later_of_same rfl rfl

end Archive

open Archive (Later bounds_later)
open Scene (archive_use)

/-! ### Operations -/

/-- Every operation leaves the readers that are open as they are, or closes them. -/
theorem Deed.later_run (deed : Deed) (hs : s.Sound) :
  Later s.2 (deed.run s).2.2
  := by
  cases deed with
  | createOptions l => exact Archive.later_of_same rfl rfl
  | addMapping options source target =>
      simp only [run]
      split
      · apply refl_of
      case h_2 o ho =>
          have hbackend : o.library.backend = Archive.backend := hs.honest.option ho
          rw [archive_use]
          refine Access.within_bind (Access.within_terminated source) (fun _ => ?_) s.2
          refine Access.within_bind (Access.within_terminated target) fun _ => ?_
          refine Access.within_bind (Access.within_change fun a => ?_) fun _ => Access.within_pure _
          rw [hbackend]
          exact Archive.later_of_same rfl rfl
  | disposeOptions options =>
      simp only [run]
      split
      · apply refl_of
      case h_2 o ho =>
          have hbackend : o.library.backend = Archive.backend := hs.honest.option ho
          rw [archive_use, Access.change, Options.dispose, hbackend]
          exact Archive.later_of_same rfl rfl
  | _ => exact bounds_later.run hs rfl

/-! ### Readers that are opened -/

section

variable {store : Store Archive} {a a' : Archive} {x : ArchiveStore}
  (honest : store.library.Honest) (hx : a.stores.get? store.ref = some x)

include honest hx

/-- A record that is opened is one of the store, and its reader is new. -/
theorem RecordReader.of_openIn {name : String} {r : RecordReader Archive}
    (h : openIn store name a = (.ok r, a')) :
  r = ⟨store, a.records.next, name⟩
    ∧ ∃ entry directory, x.contents.openRecord name = .ok entry
      ∧ a'.records = (a.records.insert
          ⟨directory, entry.symbolViews r.ref, entry.occurrenceViews r.ref⟩).2
  := by
  have hbackend : store.library.backend = Archive.backend := honest
  rw [openIn, Access.terminated_eq] at h
  split at h
  case isTrue => cases h
  case isFalse =>
      simp only [bind, Access.bind, Access.pure, Access.step, hbackend, Archive.backend,
        Archive.createRecordReader, hx, Text.decode_octets] at h
      rw [StoreContents.openRecord]
      cases hentry : x.contents.record? name with
      | none =>
          rw [hentry] at h
          cases h
      | some entry =>
          rw [hentry] at h
          cases hmissing : entry.missingSymbol? with
          | some i =>
              simp only [hmissing] at h
              cases h
          | none =>
              simp only [hmissing] at h
              cases h
              exact ⟨rfl, entry, x.directory, by simp only [hmissing], rfl⟩

/-- A unit that is opened is one of the store, and its reader is new. -/
theorem UnitReader.of_openIn {name : String} {u : UnitReader Archive}
    (h : openIn store name a = (.ok u, a')) :
  u = ⟨store, a.units.next, name⟩
    ∧ ∃ entry directory, x.contents.openUnit name = .ok entry
      ∧ a'.units = (a.units.insert
          ⟨directory, entry.view (remap x.mappings),
            entry.dependencies.map fun d => d.view (remap x.mappings),
            entry.includes.map fun i => i.view (remap x.mappings)⟩).2
  := by
  have hbackend : store.library.backend = Archive.backend := honest
  rw [openIn, Access.terminated_eq] at h
  split at h
  case isTrue => cases h
  case isFalse =>
      simp only [bind, Access.bind, Access.pure, Access.step, hbackend, Archive.backend,
        Archive.createUnitReader, hx, Text.decode_octets] at h
      rw [StoreContents.openUnit]
      cases hentry : x.contents.unit? name with
      | none =>
          rw [hentry] at h
          cases h
      | some entry =>
          rw [hentry] at h
          cases h
          exact ⟨rfl, entry, x.directory, rfl, rfl⟩

end

/-! ### Readers that are held -/

/-- The readers that are held under references that have been handed out stay as they are. -/
structure Scene.KeepsReaders (s s' : Scene) : Prop where
  records : ∀ ref < s.2.records.next, s'.1.record? ref = s.1.record? ref
  units : ∀ ref < s.2.units.next, s'.1.unit? ref = s.1.unit? ref

namespace Scene

theorem keepsReaders_of_same {s' : Scene} (hrecords : s'.1.records = s.1.records)
    (hunits : s'.1.units = s.1.units) :
  s.KeepsReaders s'
  := by
  constructor
  · intro ref _
    rw [Holdings.record?, hrecords]
    rfl
  · intro ref _
    rw [Holdings.unit?, hunits]
    rfl

theorem keepsReaders_use (m : Access Archive α) (s : Scene) :
  s.KeepsReaders (use m (fun _ h => h) s).2
  := by
  rw [use]
  rcases m s.2 with ⟨_ | _, _⟩ <;> exact keepsReaders_of_same rfl rfl

theorem keepsReaders_useDesk {m : Access (Desk × Archive) α} {keep : α → Holdings → Holdings}
    (hkeep : ∀ x h, (keep x h).records = h.records ∧ (keep x h).units = h.units) (s : Scene) :
  s.KeepsReaders (useDesk m keep s).2
  := by
  rw [useDesk]
  rcases m (s.1.desk, s.2) with ⟨_ | x, desk, _⟩
  · exact keepsReaders_of_same rfl rfl
  · obtain ⟨hrecords, hunits⟩ := hkeep x { s.1 with desk }
    exact keepsReaders_of_same hrecords hunits

end Scene

open Scene (keepsReaders_of_same keepsReaders_use keepsReaders_useDesk)

theorem StoreDeed.keepsReaders_act {e : EventStore Archive} {x : ArchiveStore}
    (honest : e.store.library.Honest) (hx : s.2.stores.get? e.store.ref = some x)
    (deed : StoreDeed) :
  s.KeepsReaders (deed.act e s).2
  := by
  cases deed with
  | unitNames _ | unitNamesFiltered _ | unitName _ | unitTime _ | discardRecord _ | purge =>
      apply keepsReaders_use
  | discardUnit _ | setHandler _ | subscribe | start _ | stop | background | close =>
      apply keepsReaders_useDesk
      exact fun _ _ => ⟨rfl, rfl⟩
  | openRecord record =>
      rw [act, Scene.use]
      rcases hopen : RecordReader.openIn e.store record s.2 with ⟨_ | r, a⟩
      · exact keepsReaders_of_same rfl rfl
      · obtain ⟨rfl, -⟩ := RecordReader.of_openIn honest hx hopen
        refine ⟨fun ref hmade => ?_, fun _ _ => rfl⟩
        rw [Holdings.record?, List.find?_append, List.find?_singleton,
          beq_false_of_ne (Nat.ne_of_gt hmade)]
        exact Option.or_none
  | openUnit unit =>
      rw [act, Scene.use]
      rcases hopen : UnitReader.openIn e.store unit s.2 with ⟨_ | u, a⟩
      · exact keepsReaders_of_same rfl rfl
      · obtain ⟨rfl, -⟩ := UnitReader.of_openIn honest hx hopen
        refine ⟨fun _ _ => rfl, fun ref hmade => ?_⟩
        rw [Holdings.unit?, List.find?_append, List.find?_singleton,
          beq_false_of_ne (Nat.ne_of_gt hmade)]
        exact Option.or_none

/-- Only to close a reader changes what readers are held that have been so. -/
theorem Deed.keepsReaders_run (hs : s.Sound) {deed : Deed}
    (hrecord : ∀ ref, deed ≠ .onRecord ref .close) (hunit : ∀ ref, deed ≠ .onUnit ref .close) :
  s.KeepsReaders (deed.run s).2
  := by
  cases deed with
  | changeDisk f | onDesk deed | createOptions l => exact keepsReaders_of_same rfl rfl
  | addMapping options source target =>
      simp only [run, Scene.use]
      split
      · exact keepsReaders_of_same rfl rfl
      · split <;> exact keepsReaders_of_same rfl rfl
  | disposeOptions options =>
      simp only [run]
      split <;> exact keepsReaders_of_same rfl rfl
  | openStore l path options =>
      simp only [run, Scene.use]
      split <;> exact keepsReaders_of_same rfl rfl
  | onStore ref deed =>
      cases he : s.1.store? ref with
      | none =>
          rw [run_onStore_of_none he]
          exact keepsReaders_of_same rfl rfl
      | some e =>
          obtain ⟨rfl, -, honest, x, hx⟩ := hs.store_held he
          obtain ⟨hrecords, hunits⟩ := deed.keepsReaders_act (s := (s.1.note _, s.2)) honest hx
          rw [run_onStore he]
          exact ⟨hrecords, hunits⟩
  | onRecord record deed =>
      simp only [run, RecordDeed.run]
      split
      · exact keepsReaders_of_same rfl rfl
      case h_2 r _ =>
          cases deed with
          | close => exact absurd rfl (hrecord record)
          | _ =>
              obtain ⟨hrecords, hunits⟩ := keepsReaders_use _ (s.1.note _, s.2)
              exact ⟨hrecords, hunits⟩
  | onUnit unit deed =>
      simp only [run, UnitDeed.run]
      split
      · exact keepsReaders_of_same rfl rfl
      case h_2 u _ =>
          cases deed with
          | close => exact absurd rfl (hunit unit)
          | _ =>
              obtain ⟨hrecords, hunits⟩ := keepsReaders_use _ (s.1.note _, s.2)
              exact ⟨hrecords, hunits⟩
  | onItem l deed => cases deed <;> apply keepsReaders_use

namespace Call

theorem keepsReaders_run (hs : s.Sound) {c : Call}
    (hrecord : ∀ ref, c ≠ .deed (.onRecord ref .close))
    (hunit : ∀ ref, c ≠ .deed (.onUnit ref .close)) :
  s.KeepsReaders (c.run s)
  := by
  cases c with
  | deed deed =>
      apply deed.keepsReaders_run hs
      · exact fun ref h => hrecord ref (congrArg Call.deed h)
      · exact fun ref h => hunit ref (congrArg Call.deed h)
  | handOut t =>
      obtain ⟨uses, huses⟩ := t.begun_uses s.1
      rw [run, Reading.after, huses]
      split <;> exact keepsReaders_of_same rfl rfl
  | search record =>
      rw [run]
      split <;> exact keepsReaders_of_same rfl rfl

theorem later_run (hs : s.Sound) (c : Call) :
  Later s.2 (c.run s).2
  := by
  cases c with
  | deed deed => exact deed.later_run hs
  | handOut t => exact bounds_later.call (c := .handOut t) hs rfl
  | search record => exact bounds_later.call (c := .search record) hs rfl

/-- A record reader is held until it is closed. -/
theorem record?_run (hs : s.Sound) {c : Call} {ref : RecordRef} (hmade : ref < s.2.records.next)
    (hclose : c ≠ .deed (.onRecord ref .close)) :
  (c.run s).1.record? ref = s.1.record? ref
  := by
  by_cases hrecord : ∃ r, c = .deed (.onRecord r .close)
  · obtain ⟨r, rfl⟩ := hrecord
    simp only [run, Deed.run, RecordDeed.run]
    cases hr : s.1.record? r with
    | none => rfl
    | some reader =>
        obtain rfl := Holdings.ref_of_record? hr
        have hne : ref ≠ reader.ref := by
          rintro rfl
          exact hclose rfl
        exact (find?_without (fun r : RecordReader Archive => r.ref) _ _ _).trans (if_neg hne)
  · by_cases hunit : ∃ u, c = .deed (.onUnit u .close)
    · obtain ⟨u, rfl⟩ := hunit
      simp only [run, Deed.run, UnitDeed.run]
      cases s.1.unit? u <;> rfl
    · exact (keepsReaders_run hs (not_exists.mp hrecord) (not_exists.mp hunit)).records ref hmade

/-- A unit reader is held until it is closed. -/
theorem unit?_run (hs : s.Sound) {c : Call} {ref : UnitRef} (hmade : ref < s.2.units.next)
    (hclose : c ≠ .deed (.onUnit ref .close)) :
  (c.run s).1.unit? ref = s.1.unit? ref
  := by
  by_cases hunit : ∃ u, c = .deed (.onUnit u .close)
  · obtain ⟨u, rfl⟩ := hunit
    simp only [run, Deed.run, UnitDeed.run]
    cases hu : s.1.unit? u with
    | none => rfl
    | some reader =>
        obtain rfl := Holdings.ref_of_unit? hu
        have hne : ref ≠ reader.ref := by
          rintro rfl
          exact hclose rfl
        exact (find?_without (fun u : UnitReader Archive => u.ref) _ _ _).trans (if_neg hne)
  · by_cases hrecord : ∃ r, c = .deed (.onRecord r .close)
    · obtain ⟨r, rfl⟩ := hrecord
      simp only [run, Deed.run, RecordDeed.run]
      cases s.1.record? r <;> rfl
    · exact (keepsReaders_run hs (not_exists.mp hrecord) (not_exists.mp hunit)).units ref hmade

end Call

end SymbolIndex
