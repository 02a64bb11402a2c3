import SymbolIndex.Proofs.Errors.Alike

/-!
# Operations that are indifferent to errors and counts

Two scenes are alike if the same is held in them of archives that are alike. An operation of a
client gives the same in scenes that are alike, and leaves them alike.
-/

namespace SymbolIndex

open Archive (AlikeAtDesk)

variable {α : Type}

/-! ### Scenes that are alike -/

/-- The same is held of archives that are alike. -/
inductive Scene.Alike (s : Scene) : Scene → Prop where
  | intro (uses : List Use) {a : Archive} (h : s.2.Alike a) : Alike s ({ s.1 with uses }, a)

namespace Scene

variable {s t u : Scene}

namespace Alike

theorem refl (ha : s.2.errors.Sound) :
  s.Alike s
  := .intro s.1.uses (.refl ha)

theorem symm (h : s.Alike t) :
  t.Alike s
  := by
  obtain ⟨uses, ha⟩ := h
  exact .intro s.1.uses ha.symm

theorem trans (h : s.Alike t) (h' : t.Alike u) :
  s.Alike u
  := by
  obtain ⟨uses, ha⟩ := h
  obtain ⟨uses', ha'⟩ := h'
  exact .intro uses' (ha.trans ha')

/-- Scenes that are alike have archives that are alike. -/
theorem archive (h : s.Alike t) :
  s.2.Alike t.2
  := by
  obtain ⟨uses, ha⟩ := h
  exact ha

/-- The uses of directories make no difference. -/
theorem note (h : s.Alike t) (use use' : Use) :
  Alike (s.1.note use, s.2) (t.1.note use', t.2)
  := by
  obtain ⟨uses, ha⟩ := h
  exact .intro _ ha

end Alike

/-- What an operation gives, and what it leaves, is alike in scenes that are alike. -/
def Indifferent (given : Scene → Except Halt Given) (run : Access Scene Unit) : Prop :=
  ∀ s t, Alike s t → given s = given t ∧ Alike (run s).2 (run t).2

/-- What is kept does not depend on the uses of directories. -/
def Plain (keep : α → Holdings → Holdings) : Prop :=
  ∀ x h uses, keep x { h with uses } = { keep x h with uses }

/-- What a client is told of an access, and keeps of it, depends on nothing but how it ends. -/
theorem indifferent_use {m : Access Archive α} {keep : α → Holdings → Holdings}
    (hm : m.Respects Archive.Alike) (hkeep : Plain keep)
    (tell : Except Halt α → Except Halt Given) :
  Indifferent (fun s => tell (m s.2).1) (use m keep)
  := by
  intro s t h
  obtain @⟨uses, b, ha⟩ := h
  obtain ⟨hresult, hleft⟩ := hm s.2 b ha
  refine ⟨congrArg tell hresult, ?_⟩
  simp only [use]
  rcases hs : m s.2 with ⟨h | x, a'⟩
  all_goals
    rcases ht : m b with ⟨h' | x', b'⟩
    all_goals
      rw [hs, ht] at hresult hleft
      cases hresult
  · exact .intro uses hleft
  · show Alike (keep x s.1, a') (keep x { s.1 with uses }, b')
    rw [hkeep x s.1 uses]
    exact .intro uses hleft

/-- An access of which nothing is kept. -/
theorem indifferent_useAlone {m : Access Archive α} (hm : m.Respects Archive.Alike)
    (tell : Except Halt α → Except Halt Given) :
  Indifferent (fun s => tell (m s.2).1) (use m)
  := indifferent_use hm (fun _ _ _ => rfl) tell

/-- An access of the archive and of the event desk, which is the same in both scenes. -/
theorem indifferent_useDesk {m : Access (Desk × Archive) α} {keep : α → Holdings → Holdings}
    (hm : m.Respects AlikeAtDesk) (hkeep : Plain keep) (tell : Except Halt α → Except Halt Given) :
  Indifferent (fun s => tell (m (s.1.desk, s.2)).1) (useDesk m keep)
  := by
  intro s t h
  obtain @⟨uses, b, ha⟩ := h
  obtain ⟨hresult, hdesk, hleft⟩ := hm (s.1.desk, s.2) (s.1.desk, b) ⟨rfl, ha⟩
  refine ⟨congrArg tell hresult, ?_⟩
  simp only [useDesk]
  rcases hs : m (s.1.desk, s.2) with ⟨h | x, desk, a'⟩
  all_goals
    rcases ht : m (s.1.desk, b) with ⟨h' | x', desk', b'⟩
    all_goals
      rw [hs, ht] at hresult hdesk hleft
      cases hresult
  · obtain rfl : desk = desk' := hdesk
    exact .intro (s := ({ s.1 with desk }, a')) uses hleft
  · obtain rfl : desk = desk' := hdesk
    show Alike (keep x { s.1 with desk }, a') (keep x { s.1 with desk, uses }, b')
    rw [hkeep x { s.1 with desk } uses]
    exact .intro uses hleft

theorem indifferent_useDeskAlone {m : Access (Desk × Archive) α} (hm : m.Respects AlikeAtDesk)
    (tell : Except Halt α → Except Halt Given) :
  Indifferent (fun s => tell (m (s.1.desk, s.2)).1) (useDesk m)
  := indifferent_useDesk hm (fun _ _ _ => rfl) tell

end Scene

open Scene (Indifferent indifferent_use indifferent_useAlone indifferent_useDesk
  indifferent_useDeskAlone)

/-! ### Operations of a client -/

/-- Each operation on a store comes to one access of the archive, alone or with the desk. -/
theorem StoreDeed.indifferent {e : EventStore Archive} (honest : e.store.library.Honest)
    (deed : StoreDeed) :
  Indifferent (fun s => deed.given e (s.1.desk, s.2)) (deed.act e)
  := by
  cases deed with
  | unitNames sorted =>
      exact indifferent_useAlone (Store.unitNames_respects honest sorted)
        fun result => (result.map .names).map .response
  | unitNamesFiltered includeSystem =>
      exact indifferent_useAlone (Store.unitNamesFiltered_respects honest includeSystem)
        fun result => (result.map .names).map .response
  | unitName outputPath =>
      exact indifferent_useAlone (Store.unitName_respects honest outputPath)
        fun result => (result.map .name).map .response
  | unitTime unit =>
      exact indifferent_useAlone (Store.unitTime_respects honest unit)
        fun result => (result.map .time).map .response
  | discardUnit unit =>
      exact indifferent_useDeskAlone (EventStore.discardUnit_respects honest unit)
        fun result => (result.map fun _ => .done).map .response
  | discardRecord record =>
      exact indifferent_useAlone (Store.discardRecord_respects honest record)
        fun result => (result.map fun _ => .done).map .response
  | purge =>
      exact indifferent_useAlone (Store.purge_respects honest)
        fun result => (result.map fun _ => .done).map .response
  | openRecord record =>
      refine indifferent_use (RecordReader.openIn_respects honest record) ?_
        fun result => result.map .record
      exact fun _ _ _ => rfl
  | openUnit unit =>
      refine indifferent_use (UnitReader.openIn_respects honest unit) ?_
        fun result => result.map .unit
      exact fun _ _ _ => rfl
  | setHandler journal =>
      refine indifferent_useDesk (EventStore.setHandler_respects honest _) ?_ fun _ => .ok .done
      exact fun _ _ _ => rfl
  | subscribe =>
      refine indifferent_useDesk (EventStore.subscribe_respects honest) ?_
        fun result => result.map fun x => .receiver x.1
      exact fun _ _ _ => rfl
  | start wait =>
      exact indifferent_useDeskAlone (EventStore.start_respects honest wait)
        fun result => result.map fun _ => .done
  | stop =>
      exact indifferent_useDeskAlone (Access.respects_change (EventStore.stop_alike honest))
        fun _ => .ok .done
  | background =>
      exact indifferent_useDeskAlone (Access.respects_change (EventStore.background_alike honest))
        fun _ => .ok .done
  | close =>
      refine indifferent_useDesk (Access.respects_change (EventStore.close_alike honest)) ?_
        fun _ => .ok .done
      exact fun _ _ _ => rfl

/-- Each operation on a record comes to one access of the archive. -/
theorem RecordDeed.indifferent {r : RecordReader Archive} (honest : r.library.Honest)
    (deed : RecordDeed) :
  Indifferent (fun s => deed.given r s.2) (deed.act r)
  := by
  cases deed with
  | symbolInfos =>
      exact indifferent_useAlone (RecordReader.symbolInfos_respects honest)
        fun result => result.map fun infos => .response (.symbols infos)
  | cachedSymbols =>
      exact indifferent_useAlone (RecordReader.cachedSymbols_respects honest)
        fun result => result.map .held
  | occurrenceInfos =>
      exact indifferent_useAlone (RecordReader.occurrenceInfos_respects honest)
        fun result => result.map fun infos => .response (.occurrences infos)
  | close =>
      refine indifferent_use (Access.respects_change (RecordReader.close_retained honest)) ?_
        fun _ => .ok .done
      exact fun _ _ _ => rfl

theorem UnitDeed.indifferent {u : UnitReader Archive} (honest : u.library.Honest)
    (deed : UnitDeed) :
  Indifferent (fun s => deed.given u s.2) (deed.act u)
  := by
  cases deed with
  | view =>
      exact indifferent_useAlone (UnitReader.view_respects honest)
        fun result => result.map .view
  | info =>
      exact indifferent_useAlone (UnitReader.info_respects honest)
        fun result => result.map fun info => .response (.unit info)
  | dependencyInfos =>
      exact indifferent_useAlone (UnitReader.dependencyInfos_respects honest)
        fun result => result.map .dependencies
  | includeInfos =>
      exact indifferent_useAlone (UnitReader.includeInfos_respects honest)
        fun result => result.map .includes
  | close =>
      refine indifferent_use (Access.respects_change (UnitReader.close_retained honest)) ?_
        fun _ => .ok .done
      exact fun _ _ _ => rfl

/-- An item that has been handed out says all that is asked of it. -/
theorem ItemDeed.indifferent {l : Library Archive} (honest : l.Honest) (deed : ItemDeed) :
  Indifferent (fun s => deed.given l s.2) (deed.run l)
  := by
  have hbackend : l.backend = Archive.backend := honest
  cases deed with
  | occurrenceSymbol v =>
      have hread : ∀ a, l.occurrenceSymbol v a = (.ok v.symbol, a) := by
        intro a
        rw [Library.occurrenceSymbol, hbackend]
        rfl
      exact indifferent_useAlone (Access.respects_of_reads hread fun _ _ _ => rfl)
        fun result => result.map .symbol
  | occurrenceInfo v =>
      have hread := Library.occurrenceInfo_honest honest v
      exact indifferent_useAlone (Access.respects_of_reads hread fun _ _ _ => rfl)
        fun result => result.map .occurrence
  | relationSymbol v =>
      have hread : ∀ a, l.relationSymbol v a = (.ok v.symbol, a) := by
        intro a
        rw [Library.relationSymbol, hbackend]
        rfl
      exact indifferent_useAlone (Access.respects_of_reads hread fun _ _ _ => rfl)
        fun result => result.map .symbol
  | relationInfo v =>
      have hread := Library.relationInfo_honest honest v
      exact indifferent_useAlone (Access.respects_of_reads hread fun _ _ _ => rfl)
        fun result => result.map .relation

/-- In scenes that are alike an operation gives the same, and leaves them alike. -/
theorem Deed.indifferent {s t : Scene} (hs : s.Sound) (h : s.Alike t) (deed : Deed) :
  deed.given s = deed.given t ∧ (deed.run s).2.Alike (deed.run t).2
  := by
  have hst := h
  obtain @⟨uses, b, ha⟩ := h
  cases deed with
  | changeDisk f =>
      obtain ⟨errors, ledger, hsound, hsound'⟩ := ha
      refine ⟨rfl, .intro (s := (s.1, { s.2 with disk := f s.2.disk })) uses ?_⟩
      exact .intro errors ledger hsound hsound'
  | onDesk deed => exact ⟨rfl, .intro uses ha⟩
  | createOptions l =>
      refine indifferent_use (Options.create_respects (l.withArchive_honest l.convention)) ?_
        (fun result => result.map .options) s _ hst
      exact fun _ _ _ => rfl
  | addMapping options source target =>
      have hsame : Holdings.option? { s.1 with uses } options = s.1.option? options := rfl
      simp only [given, run, hsame]
      cases ho : s.1.option? options with
      | none => exact ⟨rfl, hst⟩
      | some o =>
          have honest := hs.honest.option ho
          refine indifferent_use (Options.add_respects honest source target) ?_
            (fun result => result.map fun _ => .done) s _ hst
          exact fun _ _ _ => rfl
  | disposeOptions options =>
      have hsame : Holdings.option? { s.1 with uses } options = s.1.option? options := rfl
      refine ⟨rfl, ?_⟩
      simp only [run, hsame]
      cases ho : s.1.option? options with
      | none => exact hst
      | some o =>
          have honest := hs.honest.option ho
          refine (indifferent_use (Access.respects_change (Options.dispose_retained honest)) ?_
            (fun _ => .ok .done) s _ hst).2
          exact fun _ _ _ => rfl
  | openStore l path options =>
      refine indifferent_use (Store.openAt_respects (l.withArchive_honest l.convention) path _) ?_
        (fun result => result.map .store) _ _ (hst.note _ _)
      exact fun _ _ _ => rfl
  | onStore ref deed =>
      have hsame : Holdings.store? { s.1 with uses } ref = s.1.store? ref := rfl
      simp only [given, run, StoreDeed.run, hsame]
      cases he : s.1.store? ref with
      | none => exact ⟨rfl, hst⟩
      | some e =>
          obtain ⟨-, -, honest, -⟩ := hs.store_held he
          exact deed.indifferent honest _ _ (hst.note _ _)
  | onRecord record deed =>
      have hsame : Holdings.record? { s.1 with uses } record = s.1.record? record := rfl
      simp only [given, run, RecordDeed.run, hsame]
      cases hr : s.1.record? record with
      | none => exact ⟨rfl, hst⟩
      | some r =>
          have honest := hs.honest.record hr
          exact deed.indifferent honest _ _ (hst.note _ _)
  | onUnit unit deed =>
      have hsame : Holdings.unit? { s.1 with uses } unit = s.1.unit? unit := rfl
      simp only [given, run, UnitDeed.run, hsame]
      cases hu : s.1.unit? unit with
      | none => exact ⟨rfl, hst⟩
      | some u =>
          have honest := hs.honest.unit hu
          exact deed.indifferent honest _ _ (hst.note _ _)
  | onItem l deed => exact deed.indifferent (l.withArchive_honest l.convention) s _ hst

end SymbolIndex
