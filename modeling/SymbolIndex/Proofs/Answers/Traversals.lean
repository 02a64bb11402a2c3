import SymbolIndex.Proofs.Accounts.Programs
import SymbolIndex.Proofs.Search.Obedience

/-!
# What traversals hand out

A traversal hands out what the archive has of the object that is traversed, and a search goes
through the symbols of its record. Nothing else than a refusal makes them end with an error: once
they have begun, they end well, or with a panic of the client.
-/

namespace SymbolIndex

variable {α : Type} {s s' : Scene} {err : Error}

namespace Reading

/-- What the archive hands out. -/
def items (a : Archive) : Reading α → List α
  | units store sorted => a.unitNamesOf store sorted
  | symbols record => a.symbolsOf record
  | occurrences record => a.occurrencesOf record .all
  | occurrencesOnLines record start count => a.occurrencesOf record (.lines start count)
  | occurrencesOfSymbols record wanted related =>
    a.occurrencesOf record (.ofSymbols (wanted.map (·.view.ref)) (related.map (·.view.ref)))
  | relations _ v => v.relations
  | dependencies unit => a.dependenciesOf unit
  | includes unit => a.includesOf unit

/-- A traversal of something that is held hands out the items that the archive has of it. -/
theorem start_each (t : Reading α) {listing : Listing Archive α} (hs : s.Sound)
    (h : t.listing? s.1 = some (.ok listing)) :
  (listing.start listing.convention s.2).1 = .each (t.items s.2)
  := by
  have hselect : ∀ {record : RecordRef} {r : RecordReader Archive} (selection : Selection),
      s.1.record? record = some r →
        ((r.select selection).start r.library.convention s.2).1
          = .each (s.2.occurrencesOf record selection) := by
    intro record r selection hr
    obtain rfl := Holdings.ref_of_record? hr
    have hbackend : r.library.backend = Archive.backend := hs.honest.record hr
    simp only [RecordReader.select, hbackend, Archive.backend]
  cases t with
  | units store sorted =>
      obtain ⟨e, he, hlisting⟩ := Option.map_eq_some_iff.mp h
      obtain rfl := Except.ok.inj hlisting
      obtain rfl := Holdings.ref_of_store? he
      have hbackend : e.store.library.backend = Archive.backend := hs.honest.store he
      simp [Store.units, Listing.map, hbackend, Archive.backend, Play.map_each, items,
        Function.comp_def]
  | symbols record =>
      obtain ⟨r, hr, hlisting⟩ := Option.map_eq_some_iff.mp h
      obtain rfl := Except.ok.inj hlisting
      obtain rfl := Holdings.ref_of_record? hr
      have hbackend : r.library.backend = Archive.backend := hs.honest.record hr
      simp only [RecordReader.symbols, RecordReader.listing, hbackend, Archive.backend, items]
  | occurrences record | occurrencesOnLines record start count =>
      obtain ⟨r, hr, hlisting⟩ := Option.map_eq_some_iff.mp h
      obtain rfl := Except.ok.inj hlisting
      exact hselect _ hr
  | occurrencesOfSymbols record wanted related =>
      obtain ⟨r, hr, hlisting⟩ := Option.map_eq_some_iff.mp h
      rw [RecordReader.occurrencesOfSymbols] at hlisting
      split at hlisting
      · cases hlisting
      · obtain rfl := Except.ok.inj hlisting
        exact hselect _ hr
  | relations l v =>
      obtain rfl := Except.ok.inj (Option.some.inj h)
      rfl
  | dependencies unit =>
      obtain ⟨u, hu, hlisting⟩ := Option.map_eq_some_iff.mp h
      obtain rfl := Except.ok.inj hlisting
      obtain rfl := Holdings.ref_of_unit? hu
      have hbackend : u.library.backend = Archive.backend := hs.honest.unit hu
      simp only [UnitReader.dependencies, hbackend, Archive.backend, items]
  | includes unit =>
      obtain ⟨u, hu, hlisting⟩ := Option.map_eq_some_iff.mp h
      obtain rfl := Except.ok.inj hlisting
      obtain rfl := Holdings.ref_of_unit? hu
      have hbackend : u.library.backend = Archive.backend := hs.honest.unit hu
      simp only [UnitReader.includes, hbackend, Archive.backend, items]

/-- Only symbols of another library are refused. -/
theorem refused_eq (t : Reading α) {h : Holdings} (hrefused : t.listing? h = some (.error err)) :
  err = .badArgument .foreignSymbols
  := by
  cases t with
  | occurrencesOfSymbols record wanted related =>
      obtain ⟨r, -, hlisting⟩ := Option.map_eq_some_iff.mp hrefused
      rw [RecordReader.occurrencesOfSymbols] at hlisting
      split at hlisting <;> cases hlisting
      rfl
  | relations l v => cases hrefused
  | units _ _ | symbols _ | occurrences _ | occurrencesOnLines _ _ _ | dependencies _
  | includes _ =>
      obtain ⟨_, -, hlisting⟩ := Option.map_eq_some_iff.mp hrefused
      cases hlisting

/-- A traversal ends with an error exactly if it is refused, and then it does not begin. -/
theorem apply_failed_iff (hs : s.Sound) (t : Reading α) (f : Applier Scene α) :
  t.apply f s = (.error (.error err), s')
    ↔ t.listing? s.1 = some (.error err) ∧ s' = (t.begun s.1, s.2)
  := by
  rw [apply]
  constructor
  · intro h
    split at h
    case h_1 => cases h
    case h_2 e hrefused =>
        cases h
        exact ⟨hrefused, rfl⟩
    case h_3 listing hlisting =>
        have hplay := t.start_each hs hlisting
        rcases hstart : listing.start listing.convention s.2 with ⟨play, a⟩
        rw [hstart] at hplay
        obtain rfl : play = .each (t.items s.2) := hplay
        simp only [Listing.apply, hstart] at h
        exact absurd (congrArg Prod.fst h) (drive_each_ne_error _ _ _ _ _ err)
  · rintro ⟨hrefused, rfl⟩
    rw [hrefused]

/-- No search ends with an error. -/
theorem search_ne_error (hs : s.Sound) (record : RecordRef) (f : Searcher Scene SymbolView) :
  (search record f s).1 ≠ .error (.error err)
  := by
  rw [search]
  split
  case h_1 =>
      intro h
      cases h
  case h_2 r hr =>
      have hbackend : r.library.backend = Archive.backend := hs.honest.record hr
      rw [RecordReader.search, hbackend]
      exact driveSearch_each_ne_error _ _ _ _ _ err

end Reading

end SymbolIndex
