import SymbolIndex.Proofs.Accounts.Deeds
import SymbolIndex.Proofs.Run.Points

/-!
# Whole programs

Whatever a client does, in traversals and outside them, the archive has open exactly what the
client holds, every error object has been disposed of, and every handler that has been installed
is kept by an open store or has been finalized. What is done in one directory is not counted in
another.
-/

namespace SymbolIndex

open Archive
open Scene (Leads)

variable {α β : Type} {s : Scene}

/-! ### Traversals -/

namespace Scene

variable {d : Path} {k : ObjectKind} {ref : Nat}

/-- The beginning of a traversal uses the directory of the object that is traversed. -/
theorem leads_of_begun {a : Archive} (hheld : s.1.held.Has k ref d)
    (h : s.Sound → Calm s.1.desk.handlers.next k ref d s.2 a) :
  Leads s (s.1.note ⟨d, false⟩, a)
  := by
  apply leads_of_uses
  intro hs
  have hfollows := h hs (hs.held ▸ hheld) hs.archive
  rw [hs.held] at hfollows
  have honest := hs.honest
  exact ⟨hfollows, rfl, honest.stores, honest.records, honest.units, honest.options⟩

end Scene

namespace Reading

/-- A traversal of something that is held uses its directory, even if it is refused. -/
theorem noted_leads (t : Reading α) {answer : Except Error (Listing Archive α)}
    (h : t.listing? s.1 = some answer) :
  Leads s (t.begun s.1, s.2)
  := by
  have hquiet : ∀ {n : Nat} {k : ObjectKind} {ref : Nat} {d : Path}, Calm n k ref d s.2 s.2 :=
    refl_of _ s.2
  cases t with
  | units store sorted =>
      obtain ⟨e, he, rfl⟩ := Option.map_eq_some_iff.mp h
      simp only [begun, directory?, he]
      exact Scene.leads_of_begun (Holdings.mem_of_store? he).2 fun _ => hquiet
  | symbols record | occurrences record | occurrencesOnLines record start count
  | occurrencesOfSymbols record wanted related =>
      obtain ⟨r, hr, rfl⟩ := Option.map_eq_some_iff.mp h
      simp only [begun, directory?, hr]
      exact Scene.leads_of_begun (Holdings.mem_of_record? hr).2 fun _ => hquiet
  | relations l v => apply refl_of Leads
  | dependencies unit | includes unit =>
      obtain ⟨u, hu, rfl⟩ := Option.map_eq_some_iff.mp h
      simp only [begun, directory?, hu]
      exact Scene.leads_of_begun (Holdings.mem_of_unit? hu).2 fun _ => hquiet

/-- The occurrences of a record are asked for on behalf of its directory. -/
theorem select_leads {record : RecordRef} {r : RecordReader Archive}
    (hr : s.1.record? record = some r) (selection : Selection) :
  Leads s (s.1.note ⟨r.store.directory, false⟩,
    ((r.select selection).start r.library.convention s.2).2)
  := by
  obtain ⟨-, hheld⟩ := Holdings.mem_of_record? hr
  refine Scene.leads_of_begun hheld fun hs hopen => ?_
  have hbackend : r.library.backend = Archive.backend := hs.honest.record hr
  obtain ⟨x, hx, hdirectory⟩ := record_of_has hopen
  rw [← hdirectory]
  simp only [RecordReader.select, hbackend]
  exact quiet_countQuery hx selection

/-- A traversal that begins leaves the archive as it is, unless it asks for the occurrences of a
record. -/
theorem start_cases (t : Reading α) {listing : Listing Archive α} (hs : s.Sound)
    (h : t.listing? s.1 = some (.ok listing)) :
  (listing.start listing.convention s.2).2 = s.2
    ∨ ∃ record r selection, s.1.record? record = some r
      ∧ t.begun s.1 = s.1.note ⟨r.store.directory, false⟩
      ∧ (listing.start listing.convention s.2).2
        = ((r.select selection).start r.library.convention s.2).2
  := by
  cases t with
  | units store sorted =>
      obtain ⟨e, he, hlisting⟩ := Option.map_eq_some_iff.mp h
      obtain rfl := Except.ok.inj hlisting
      have hbackend : e.store.library.backend = Archive.backend := hs.honest.store he
      left
      simp only [Store.units, Listing.map, hbackend]
      rfl
  | symbols record =>
      obtain ⟨r, hr, hlisting⟩ := Option.map_eq_some_iff.mp h
      obtain rfl := Except.ok.inj hlisting
      have hbackend : r.library.backend = Archive.backend := hs.honest.record hr
      left
      simp only [RecordReader.symbols, RecordReader.listing, hbackend]
      rfl
  | occurrences record | occurrencesOnLines record start count =>
      obtain ⟨r, hr, hlisting⟩ := Option.map_eq_some_iff.mp h
      obtain rfl := Except.ok.inj hlisting
      refine .inr ⟨record, r, _, hr, ?_, rfl⟩
      simp only [begun, directory?, hr, Option.map_some]
  | occurrencesOfSymbols record wanted related =>
      obtain ⟨r, hr, hlisting⟩ := Option.map_eq_some_iff.mp h
      rw [RecordReader.occurrencesOfSymbols] at hlisting
      split at hlisting
      · cases hlisting
      · obtain rfl := Except.ok.inj hlisting
        refine .inr ⟨record, r, _, hr, ?_, rfl⟩
        simp only [begun, directory?, hr, Option.map_some]
  | relations l v =>
      obtain rfl := Except.ok.inj (Option.some.inj h)
      exact .inl rfl
  | dependencies unit =>
      obtain ⟨u, hu, hlisting⟩ := Option.map_eq_some_iff.mp h
      obtain rfl := Except.ok.inj hlisting
      have hbackend : u.library.backend = Archive.backend := hs.honest.unit hu
      left
      simp only [UnitReader.dependencies, hbackend]
      rfl
  | includes unit =>
      obtain ⟨u, hu, hlisting⟩ := Option.map_eq_some_iff.mp h
      obtain rfl := Except.ok.inj hlisting
      have hbackend : u.library.backend = Archive.backend := hs.honest.unit hu
      left
      simp only [UnitReader.includes, hbackend]
      rfl

theorem begun_leads (t : Reading α) {listing : Listing Archive α}
    (h : t.listing? s.1 = some (.ok listing)) :
  Leads s (t.begun s.1, (listing.start listing.convention s.2).2)
  := by
  intro hs
  rcases t.start_cases hs h with hsame | ⟨record, r, selection, hr, hbegun, hselect⟩
  · rw [hsame]
    exact t.noted_leads h hs
  · rw [hbegun, hselect]
    exact select_leads hr selection hs

theorem searched_leads {record : RecordRef} {r : RecordReader Archive}
    (hr : s.1.record? record = some r) :
  Leads s (s.1.note ⟨r.store.directory, false⟩,
    (r.library.backend.search r.library.convention r.ref s.2).2)
  := by
  obtain ⟨-, hheld⟩ := Holdings.mem_of_record? hr
  refine Scene.leads_of_begun hheld fun hs hopen => ?_
  have hbackend : r.library.backend = Archive.backend := hs.honest.record hr
  rw [hbackend]
  apply Quiet.refl

/-- Traversals and searches begin in agreement with what is held. -/
theorem begins_leads :
  Begins Leads
  where
  refused t _ _ h := t.noted_leads h
  begun t _ _ h := t.begun_leads h
  searched h := searched_leads h

end Reading

/-- At every point of a program the books are in agreement with what is held. -/
theorem Program.Reaches.leads {p : Program β} {x : Scene} (h : p.Reaches s x) :
  Leads s x
  := h.within Reading.begins_leads (fun deed _ => deed.run_leads) p.only_true

end SymbolIndex
