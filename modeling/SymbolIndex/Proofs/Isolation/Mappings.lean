import SymbolIndex.Proofs.Isolation.Readers

/-!
# Mappings of a client

A client keeps the mappings that it has added to options, and so does the library. They are the
same, whatever the client does. So a store is opened with the mappings that the client has added.
-/

namespace SymbolIndex

variable {α : Type} {s s' : Scene}

/-- The mappings of the options that are held, if there are options. -/
def Holdings.mappings (h : Holdings) (options : Option OptionsRef) : List (String × String) :=
  ((options.bind h.option?).map Options.mappings).getD []

/-! ### Calls that do not change options -/

/-- The options of the archive stay as they are. -/
def Archive.SameOptions (a a' : Archive) : Prop := a'.options = a.options

namespace Archive

instance : IsPreorder Archive SameOptions where
  refl _ := rfl
  trans _ _ _ h h' := h'.trans h

theorem reads_sameOptions :
  Reads SameOptions
  where
  disposeError e a := by
    cases e with
    | own ref =>
        rw [disposeError]
        split <;> rfl
    | injected n => rfl
  createRecordReader store octets a := by
    simp only [createRecordReader]
    split
    · rfl
    · split
      · rfl
      · split <;> rfl
  disposeRecordReader ref a := by
    rw [disposeRecordReader]
    split <;> rfl
  createUnitReader store octets a := by
    simp only [createUnitReader]
    split
    · rfl
    · split <;> rfl
  disposeUnitReader ref a := by
    rw [disposeUnitReader]
    split <;> rfl
  unitTime ref octets a := by
    simp only [unitTime]
    split
    · rfl
    · split <;> rfl

theorem bounds_sameOptions :
  Bounds SameOptions
  where
  toReads := reads_sameOptions
  changeDisk f a := rfl
  createStore octets options a := by
    simp only [createStore]
    split <;> rfl
  disposeStore ref a := by
    rw [disposeStore]
    split <;> rfl
  withStore ref f a := by
    rw [withStore]
    split <;> rfl
  startListening ref wait a := by
    simp only [startListening]
    split
    · rfl
    · split
      · rfl
      · split
        · rfl
        · split <;> rfl
  changeContents ref f a := by
    rw [changeContents]
    split <;> rfl
  countQuery ref selection a := by
    rw [countQuery.eq_def]
    split <;> rfl

end Archive

namespace Scene

theorem options_use {m : Access Archive α} {keep : α → Holdings → Holdings}
    (hkeep : ∀ x h, (keep x h).options = h.options) (s : Scene) :
  (use m keep s).2.1.options = s.1.options
  := by
  rw [use]
  rcases m s.2 with ⟨_ | x, _⟩
  · rfl
  · exact hkeep x s.1

theorem options_useDesk {m : Access (Desk × Archive) α} {keep : α → Holdings → Holdings}
    (hkeep : ∀ x h, (keep x h).options = h.options) (s : Scene) :
  (useDesk m keep s).2.1.options = s.1.options
  := by
  rw [useDesk]
  rcases m (s.1.desk, s.2) with ⟨_ | x, desk, _⟩
  · rfl
  · exact hkeep x { s.1 with desk }

end Scene

open Scene (options_use options_useDesk)

theorem StoreDeed.options_act (e : EventStore Archive) (deed : StoreDeed) (s : Scene) :
  (deed.act e s).2.1.options = s.1.options
  := by
  cases deed with
  | unitNames _ | unitNamesFiltered _ | unitName _ | unitTime _ | discardRecord _ | purge
  | openRecord _ | openUnit _ =>
      apply options_use
      exact fun _ _ => rfl
  | discardUnit _ | setHandler _ | subscribe | start _ | stop | background | close =>
      apply options_useDesk
      exact fun _ _ => rfl

/-- Only what is done with options changes the options that are held. -/
theorem Deed.options_run {deed : Deed} (h : deed.changesOptions = false) (s : Scene) :
  (deed.run s).2.1.options = s.1.options
  := by
  cases deed with
  | createOptions _ | addMapping _ _ _ | disposeOptions _ => cases h
  | changeDisk f => rfl
  | onDesk deed => rfl
  | openStore l path options =>
      rw [run]
      apply options_use
      exact fun _ _ => rfl
  | onStore ref deed =>
      simp only [run, StoreDeed.run]
      split
      · rfl
      · exact deed.options_act _ _
  | onRecord record deed =>
      simp only [run, RecordDeed.run]
      split
      · rfl
      · cases deed
        all_goals
          apply options_use
          exact fun _ _ => rfl
  | onUnit unit deed =>
      simp only [run, UnitDeed.run]
      split
      · rfl
      · cases deed
        all_goals
          apply options_use
          exact fun _ _ => rfl
  | onItem l deed => cases deed <;> exact options_use (fun _ _ => rfl) s

theorem Call.options_run {c : Call} (h : c.changesOptions = false) (s : Scene) :
  (c.run s).1.options = s.1.options
  := by
  cases c with
  | deed deed => exact Deed.options_run h s
  | handOut t =>
      obtain ⟨uses, huses⟩ := t.begun_uses s.1
      rw [run, Reading.after, huses]
      split <;> rfl
  | search record =>
      rw [run]
      split <;> rfl

/-! ### Both sides -/

namespace Options

variable {o : Options Archive} {source target : String}

/-- A mapping without zeros is added on both sides. -/
theorem add_eq (honest : o.library.Honest) (hsource : '\x00' ∉ source.toList)
    (htarget : '\x00' ∉ target.toList) (a : Archive) :
  o.add source target a
    = (.ok { o with mappings := o.mappings ++ [(source, target)] },
        { a with options := a.options.modify o.ref (· ++ [(source, target)]) })
  := by
  have hbackend : o.library.backend = Archive.backend := honest
  rw [add, Access.terminated_eq, Access.terminated_eq, if_neg hsource, if_neg htarget, hbackend]
  simp only [bind, Access.bind, Access.pure, Access.change, Archive.backend, Archive.addMapping,
    Text.decode_octets]
  rfl

/-- A mapping with a zero is added on neither side. -/
theorem add_of_refused (o : Options Archive)
    (h : ¬ ('\x00' ∉ source.toList ∧ '\x00' ∉ target.toList)) (a : Archive) :
  ∃ halt, o.add source target a = (.error halt, a)
  := by
  rw [add, Access.terminated_eq, Access.terminated_eq]
  split
  case isTrue => exact ⟨_, rfl⟩
  case isFalse hsource =>
      rw [if_pos (by_contra fun htarget => h ⟨hsource, htarget⟩)]
      exact ⟨_, rfl⟩

/-- A mapping is added on both sides, or on none. -/
theorem add_cases (honest : o.library.Honest) (source target : String) (a : Archive) :
  (∃ halt, o.add source target a = (.error halt, a))
    ∨ o.add source target a
        = (.ok { o with mappings := o.mappings ++ [(source, target)] },
            { a with options := a.options.modify o.ref (· ++ [(source, target)]) })
  := by
  by_cases hzero : '\x00' ∉ source.toList ∧ '\x00' ∉ target.toList
  · exact .inr (add_eq honest hzero.1 hzero.2 a)
  · exact .inl (o.add_of_refused hzero a)

end Options

/-- The library has the mappings that the client has added. -/
structure Scene.Mapped (s : Scene) : Prop where
  table : s.2.options.Sound
  same : ∀ o ∈ s.1.options, s.2.options.get? o.ref = some o.mappings

namespace Scene.Mapped

theorem start (disk : Disk) :
  (Scene.start disk).Mapped
  := ⟨Table.empty_sound, fun _ ho => by cases ho⟩

theorem of_same (h : s.Mapped) (hheld : s'.1.options = s.1.options)
    (hlibrary : s'.2.options = s.2.options) :
  s'.Mapped
  := by
  constructor
  · rw [hlibrary]
    exact h.table
  · rw [hlibrary, hheld]
    exact h.same

theorem createOptions (h : s.Mapped) (l : Library Archive) :
  Mapped ((Deed.createOptions l).run s).2
  := by
  refine ⟨h.table.insert [], fun o ho => ?_⟩
  rcases List.mem_append.mp ho with ho | ho
  · exact Table.get?_insert_of_some (h.same o ho) []
  · obtain rfl := List.mem_singleton.mp ho
    exact h.table.get?_insert []

theorem disposeOptions (h : s.Mapped) (hs : s.Sound) (options : OptionsRef) :
  Mapped ((Deed.disposeOptions options).run s).2
  := by
  simp only [Deed.run]
  split
  · exact h
  case h_2 o ho =>
      have hbackend : o.library.backend = Archive.backend := hs.honest.option ho
      obtain rfl := Holdings.ref_of_option? ho
      simp only [Scene.use, Access.change, Options.dispose, hbackend]
      refine ⟨h.table.erase o.ref, fun o' ho' => ?_⟩
      obtain ⟨hmem, hne⟩ := List.mem_filter.mp ho'
      have hother : o'.ref ≠ o.ref := by simpa using hne
      exact (Table.get?_erase _ _).trans ((if_neg hother).trans (h.same o' hmem))

theorem addMapping (h : s.Mapped) (hs : s.Sound) (options : OptionsRef) (source target : String) :
  Mapped ((Deed.addMapping options source target).run s).2
  := by
  simp only [Deed.run]
  split
  · exact h
  case h_2 o ho =>
      have hmem := List.mem_of_find?_eq_some ho
      rw [Scene.use]
      rcases Options.add_cases (hs.honest.options o hmem) source target s.2 with
        ⟨halt, hadd⟩ | hadd
      · rw [hadd]
        exact h
      · simp only [hadd]
        let more : List (String × String) → List (String × String) := (· ++ [(source, target)])
        have hlookup : ∀ ref, (s.2.options.modify o.ref more).get? ref
            = if ref = o.ref then (s.2.options.get? ref).map more else s.2.options.get? ref :=
          fun ref => Table.get?_modify ref o.ref more
        refine ⟨h.table.modify o.ref more, fun o' ho' => ?_⟩
        obtain ⟨o₀, ho₀, rfl⟩ := List.mem_map.mp ho'
        split
        case isTrue =>
            refine (hlookup o.ref).trans ?_
            rw [if_pos rfl, h.same o hmem]
            rfl
        case isFalse hother =>
            refine (hlookup o₀.ref).trans ?_
            rw [if_neg hother, h.same o₀ ho₀]

/-- Nothing that a client does makes a difference between both sides. -/
theorem call (h : s.Mapped) (hs : s.Sound) (c : Call) :
  (c.run s).Mapped
  := by
  cases hoptions : c.changesOptions with
  | false =>
      exact h.of_same (c.options_run hoptions s) (Archive.bounds_sameOptions.call hs hoptions)
  | true =>
      cases c with
      | handOut _ | search _ => cases hoptions
      | deed deed =>
          cases deed with
          | createOptions l => exact h.createOptions l
          | addMapping options source target => exact h.addMapping hs options source target
          | disposeOptions options => exact h.disposeOptions hs options
          | _ => cases hoptions

theorem called (h : s.Mapped) (hs : s.Sound) (calls : List Call) :
  (s.called calls).Mapped
  := by
  induction calls generalizing s with
  | nil => exact h
  | cons c calls ih => exact ih (h.call hs c) (c.run_sound hs)

/-- A store is opened with the mappings of the client. -/
theorem mappings_eq (h : s.Mapped) (options : Option OptionsRef) :
  s.mappings options = s.1.mappings options
  := by
  rw [mappings, Holdings.mappings]
  cases ho : options.bind s.1.option? with
  | none => rfl
  | some o =>
      obtain ⟨ref, -, hfound⟩ := Option.bind_eq_some_iff.mp ho
      rw [Option.bind_some, h.same o (List.mem_of_find?_eq_some hfound)]
      rfl

end Scene.Mapped

end SymbolIndex
