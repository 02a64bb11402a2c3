import SymbolIndex.Archive.Backend
import SymbolIndex.Proofs.Accounts.Operations
import SymbolIndex.Proofs.Run.Within
import SymbolIndex.Proofs.Text.Utf8
import SymbolIndex.Store.Record
import SymbolIndex.Store.Unit

/-!
# What the use of objects enters into the books

A store or a reader is used by way of a library that has the archive behind it. Every use that
neither opens nor closes anything is quiet: an error object that it is given is disposed of, and a
reader that it opens for a while is closed again.
-/

namespace SymbolIndex

open Text (Octets)

variable {α β : Type} {handedOut : Nat} {directory : Path} {a a' : Archive}

/-- The library has the archive behind it. -/
def Library.Honest (l : Library Archive) : Prop := l.backend = Archive.backend

section

variable {store : Store Archive} (honest : store.library.Honest)

include honest

/-- A reader is of the library of its store. -/
theorem RecordReader.honest_of_store {r : RecordReader Archive} (h : r.store = store) :
  r.library.Honest
  := by
  rw [library, h]
  exact honest

theorem UnitReader.honest_of_store {u : UnitReader Archive} (h : u.store = store) :
  u.library.Honest
  := by
  rw [library, h]
  exact honest

end

/-! ### Objects that are open for a directory -/

/-- An object is open for a directory. -/
def Rolls.Has (r : Rolls) (k : ObjectKind) (ref : Nat) (directory : Path) : Prop :=
  (r k).find? (fun e => e.1 == ref) = some (ref, directory)

/-- An object is on the roll under its reference if the reference is new. -/
theorem Rolls.has_add {r : Rolls} {k : ObjectKind} {ref : Nat} (fresh : ∀ e ∈ r k, e.1 ≠ ref) :
  (r.add k ref directory).Has k ref directory
  := by
  have hbefore : (r k).find? (fun e => e.1 == ref) = none := by
    rw [List.find?_eq_none]
    intro e he
    simpa using fresh e he
  simp [Has, add, hbefore]

/-- What is found by its reference is one of the objects of a roll, which has it. -/
theorem Rolls.has_of_find? {r : Rolls} {k : ObjectKind} {objects : List β} {number : β → Nat}
    {place : β → Path} (hroll : r k = objects.map fun x => (number x, place x)) {ref : Nat} {x : β}
    (hfind : objects.find? (fun x => number x == ref) = some x) :
  x ∈ objects ∧ r.Has k (number x) (place x)
  := by
  have href : number x = ref := by simpa using List.find?_some hfind
  constructor
  · exact List.mem_of_find?_eq_some hfind
  · have hfirst : objects.find? ((fun e => e.1 == ref) ∘ fun x => (number x, place x)) = some x :=
      hfind
    rw [Has, hroll, List.find?_map, href, hfirst, Option.map_some, href]

namespace Archive

/-- A store that is on the roll is open, for the directory that is noted there. -/
theorem store_of_has {ref : StoreRef} (h : a.rolls.Has .store ref directory) :
  ∃ s, a.stores.get? ref = some s ∧ s.directory = directory
  := by
  simpa [Rolls.Has, rolls, Table.find_roll] using h

theorem record_of_has {ref : RecordRef} (h : a.rolls.Has .record ref directory) :
  ∃ r, a.records.get? ref = some r ∧ r.directory = directory
  := by
  simpa [Rolls.Has, rolls, Table.find_roll] using h

theorem unit_of_has {ref : UnitRef} (h : a.rolls.Has .unit ref directory) :
  ∃ u, a.units.get? ref = some u ∧ u.directory = directory
  := by
  simpa [Rolls.Has, rolls, Table.find_roll] using h

/-- What the use of an open object does that neither opens nor closes anything. -/
def Calm (handedOut : Nat) (k : ObjectKind) (ref : Nat) (directory : Path) (a a' : Archive) :
    Prop :=
  a.rolls.Has k ref directory → Quiet handedOut directory a a'

instance (k : ObjectKind) (ref : Nat) :
    IsPreorder Archive (Calm handedOut k ref directory) where
  refl a _ := Quiet.refl a
  trans a a' a'' h h' hopen ha := by
    have hfirst := h hopen ha
    have hsecond := h' (hfirst.rolls ▸ hopen) hfirst.sound
    rw [hfirst.rolls] at hsecond
    exact hfirst.trans hsecond

end Archive

open Archive

/-! ### Error objects -/

namespace Library

variable {l : Library Archive} (honest : l.Honest)

include honest

/-- An error object is read and disposed of. To read it changes nothing. -/
theorem takeError_honest (e : ErrorRef) (a : Archive) :
  (l.takeError e a).2 = disposeError e a
  := by
  have hdescribe : ∀ (e : ErrorRef) (a : Archive), (describeError e a).2 = a := by
    intro e a
    cases e <;> rfl
  have hbackend : l.backend = Archive.backend := honest
  simp only [takeError, hbackend, Archive.backend, hdescribe]

/-- An error object that is not used is disposed of. -/
theorem quiet_releaseError {answer : Option ErrorRef × Archive}
    (h : Settles handedOut directory a answer) :
  Quiet handedOut directory a (l.releaseError answer.1 answer.2).2
  := by
  obtain ⟨a₁, hquiet, rfl | ⟨description, rfl⟩⟩ := h
  · exact hquiet
  · apply hquiet.trans
    simp only [releaseError, Access.change, takeError_honest honest]
    apply quiet_reported

/-- An error object that is used is disposed of. -/
theorem quiet_failure {answer : Option ErrorRef × Archive} (operation : String)
    (h : Settles handedOut directory a answer) :
  Quiet handedOut directory a ((l.failure operation answer.1 : Access Archive α) answer.2).2
  := by
  obtain ⟨a₁, hquiet, rfl | ⟨description, rfl⟩⟩ := h
  · exact hquiet
  · apply hquiet.trans
    simp only [failure, takeError_honest honest]
    apply quiet_reported

end Library

/-! ### Opening -/

/-- An access that opens an object, or ends with an error and leaves nothing open. -/
def Access.Opens (handedOut : Nat) (k : ObjectKind) (directory : Path) (made : Nat → α → Prop)
    (m : Access Archive α) (a : Archive) : Prop :=
  match m a with
  | (.ok x, a') => made (a.next k) x
      ∧ (a.Sound handedOut →
        Follows handedOut ⟨directory, false⟩ (a.rolls.add k (a.next k) directory) a a')
  | (.error _, a') => Quiet handedOut directory a a'

namespace Access

variable {k : ObjectKind} {made : Nat → α → Prop}

/-- A text with a zero in it is refused before anything is opened. -/
theorem opens_terminated {f : Octets → Access Archive α} (text : String)
    (hf : ∀ octets, Text.terminated? text = some octets →
      Opens handedOut k directory made (f octets) a) :
  Opens handedOut k directory made (Access.terminated text >>= f) a
  := by
  simp only [Opens, Bind.bind, Access.bind, terminated]
  cases htext : Text.terminated? text with
  | none => exact Quiet.refl a
  | some octets => exact hf octets htext

theorem opens_terminatedPath {f : Octets → Access Archive α} (path : String)
    (hf : ∀ octets, Text.terminated? path = some octets →
      Opens handedOut k directory made (f octets) a) :
  Opens handedOut k directory made (Access.terminatedPath path >>= f) a
  := by
  simp only [Opens, Bind.bind, Access.bind, terminatedPath]
  cases htext : Text.terminated? path with
  | none => exact Quiet.refl a
  | some octets => exact hf octets htext

/-- An object that the archive has opened, or the error in its place. -/
theorem opens_created {l : Library Archive} (honest : l.Honest) (operation : String)
    {create : Archive → Created × Archive} (h : Archive.Opens handedOut k directory a (create a))
    {f : Nat → α} (hf : made (a.next k) (f (a.next k))) :
  Opens handedOut k directory made
    (Access.step create >>= fun answer => l.created operation answer >>= fun ref => pure (f ref)) a
  := by
  simp only [Opens, Bind.bind, Access.bind, Access.step]
  rcases h with ⟨description, hrefuse⟩ | ⟨hanswer, hfollows⟩
  · rw [hrefuse]
    change Quiet handedOut directory a
      (l.takeError (a.report directory description).1 (a.report directory description).2).2
    rw [Library.takeError_honest honest]
    apply quiet_reported
  · rw [hanswer]
    exact ⟨hf, hfollows⟩

end Access

/-- What is opened for one access is closed after it. -/
theorem Access.quiet_opened {ρ : Type} {k : ObjectKind} {m : Access Archive ρ} {ref : ρ → Nat}
    {opened : ρ → Prop} {use : ρ → Access Archive α} {close : ρ → Archive → Archive}
    (hm : m.Opens handedOut k directory (fun n r => opened r ∧ ref r = n) a)
    (huse : ∀ r, opened r → ∀ d, (use r).Within (Archive.Calm handedOut k (ref r) d))
    (hclose : ∀ r, opened r → ∀ a', a'.Sound handedOut → a'.rolls.Has k (ref r) directory →
      Follows handedOut ⟨directory, false⟩ (a'.rolls.remove k (ref r)) a' (close r a')) :
  Quiet handedOut directory a ((m >>= fun r s => match use r s with
      | (result, s) => (result, close r s)) a).2
  := by
  intro ha
  simp only [Bind.bind, Access.bind]
  rw [Opens] at hm
  rcases hresult : m a with ⟨h | r, a₁⟩
  · rw [hresult] at hm
    exact hm ha
  · rw [hresult] at hm
    obtain ⟨⟨hkept, href⟩, hfollows⟩ := hm
    have hfresh : ∀ e ∈ a.rolls k, e.1 ≠ a.next k := by
      intro e he
      exact Nat.ne_of_lt (ha.books.fresh k e he)
    have hopened := hfollows ha
    have hhas : a₁.rolls.Has k (ref r) directory := by
      rw [hopened.rolls, href]
      apply Rolls.has_add hfresh
    have hused := huse r hkept directory a₁ hhas hopened.sound
    have hclosed := hclose r hkept _ hused.sound (hused.rolls ▸ hhas)
    rw [hused.rolls, hopened.rolls, href, Rolls.remove_add _ _ _ hfresh] at hclosed
    exact (hopened.trans hused).trans hclosed

/-- A store that is opened has the next reference and the given path. -/
theorem Store.openAt_opens {l : Library Archive} (honest : l.Honest) (path : String)
    (options : Option (Options Archive)) :
  Access.Opens handedOut .store (Path.ofText path)
    (fun ref (store : Store Archive) => store.library = l ∧ store.ref = ref ∧ store.path = path)
    (openAt l path options) a
  := by
  have hbackend : l.backend = Archive.backend := honest
  rw [openAt]
  split
  · exact Quiet.refl a
  · apply Access.opens_terminatedPath
    intro octets hoctets
    apply Access.opens_created honest
    · have hopens : Archive.Opens handedOut .store (Path.ofText (Text.decode octets)) a
          (createStore octets (options.map Options.ref) a) := createStore_opens octets _
      rw [Text.decode_terminated hoctets] at hopens
      rw [hbackend]
      exact hopens
    · exact ⟨rfl, rfl, rfl⟩

section

variable {store : Store Archive} (honest : store.library.Honest)

include honest

/-- A reader of a record is opened for the directory of its store. -/
theorem RecordReader.openIn_opens (name : String) (h : a.rolls.Has .store store.ref directory) :
  Access.Opens handedOut .record directory
    (fun ref (r : RecordReader Archive) => r.store = store ∧ r.ref = ref) (openIn store name) a
  := by
  apply Access.opens_terminated
  intro octets _
  have hbackend : store.library.backend = Archive.backend := honest
  obtain ⟨s, hs, rfl⟩ := store_of_has h
  apply Access.opens_created honest
  · rw [hbackend]
    apply createRecordReader_opens hs
  · exact ⟨rfl, rfl⟩

theorem UnitReader.openIn_opens (name : String) (h : a.rolls.Has .store store.ref directory) :
  Access.Opens handedOut .unit directory
    (fun ref (r : UnitReader Archive) => r.store = store ∧ r.ref = ref) (openIn store name) a
  := by
  apply Access.opens_terminated
  intro octets _
  have hbackend : store.library.backend = Archive.backend := honest
  obtain ⟨s, hs, rfl⟩ := store_of_has h
  apply Access.opens_created honest
  · rw [hbackend]
    apply createUnitReader_opens hs
  · exact ⟨rfl, rfl⟩

end

/-! ### Looking -/

namespace Library

variable {l : Library Archive} (honest : l.Honest)

include honest

theorem occurrenceSymbol_within (v : OccurrenceView) :
  (l.occurrenceSymbol v).Within Eq
  := by
  have hbackend : l.backend = Archive.backend := honest
  intro a
  simp only [occurrenceSymbol, hbackend]
  rfl

theorem relationSymbol_within (v : RelationView) :
  (l.relationSymbol v).Within Eq
  := by
  have hbackend : l.backend = Archive.backend := honest
  intro a
  simp only [relationSymbol, hbackend]
  rfl

theorem relationInfo_within (v : RelationView) :
  (l.relationInfo v).Within Eq
  := by
  apply Access.within_bind (relationSymbol_within honest v)
  intro symbol
  apply Access.within_pure

theorem relationInfos_within (v : OccurrenceView) :
  (l.relationInfos v).Within Eq
  := by
  have hbackend : l.backend = Archive.backend := honest
  apply Listing.gather_within
  · intro a
    simp only [relations, hbackend]
    rfl
  · exact relationInfo_within honest

/-- An occurrence is copied without a change. -/
theorem occurrenceInfo_within (v : OccurrenceView) :
  (l.occurrenceInfo v).Within Eq
  := by
  apply Access.within_bind (occurrenceSymbol_within honest v)
  intro symbol
  apply Access.within_bind (relationInfos_within honest v)
  intro infos
  apply Access.within_pure

end Library

section

variable {store : Store Archive} (honest : store.library.Honest)

include honest

theorem Store.unitNames_within (sorted : Bool) :
  (store.unitNames sorted).Within Eq
  := by
  have hbackend : store.library.backend = Archive.backend := honest
  apply Listing.gather_within
  · intro a
    simp only [units, Listing.map, hbackend]
    rfl
  · intro name
    apply Access.within_pure

theorem Store.unitName_within (outputPath : String) :
  (store.unitName outputPath).Within Eq
  := by
  have hbackend : store.library.backend = Archive.backend := honest
  refine Access.within_bind (Access.within_terminatedPath outputPath) ?_
  intro octets
  apply Access.within_askName
  intro n a
  rw [hbackend]
  rfl

end

namespace UnitReader

variable {r : UnitReader Archive} (honest : r.library.Honest)

theorem view_within (r : UnitReader Archive) :
  r.view.Within Eq
  := by
  intro a
  rfl

include honest

theorem dependencyInfos_within :
  r.dependencyInfos.Within Eq
  := by
  have hbackend : r.library.backend = Archive.backend := honest
  apply Listing.gather_within
  · intro a
    simp only [dependencies, hbackend]
    rfl
  · intro v
    apply Access.within_pure

theorem includeInfos_within :
  r.includeInfos.Within Eq
  := by
  have hbackend : r.library.backend = Archive.backend := honest
  apply Listing.gather_within
  · intro a
    simp only [includes, hbackend]
    rfl
  · intro v
    apply Access.within_pure

/-- A unit is copied without a change. -/
theorem info_within :
  r.info.Within Eq
  := by
  apply Access.within_bind r.view_within
  intro v
  apply Access.within_bind (dependencyInfos_within honest)
  intro dependencies
  apply Access.within_bind (includeInfos_within honest)
  intro includes
  apply Access.within_pure

end UnitReader

namespace RecordReader

variable {r : RecordReader Archive} (honest : r.library.Honest)

include honest

/-- The symbols of a record are listed without a change. -/
theorem symbolInfos_within :
  r.symbolInfos.Within Eq
  := by
  have hbackend : r.library.backend = Archive.backend := honest
  apply Listing.gather_within
  · intro a
    simp only [symbols, listing, hbackend]
    rfl
  · intro v
    apply Access.within_pure

theorem cachedSymbols_within :
  r.cachedSymbols.Within Eq
  := by
  have hbackend : r.library.backend = Archive.backend := honest
  apply Listing.gather_within
  · intro a
    simp only [listing, hbackend]
    rfl
  · intro v
    apply Access.within_pure

theorem occurrenceInfos_within :
  r.occurrenceInfos.Within Eq
  := by
  have hbackend : r.library.backend = Archive.backend := honest
  apply Listing.gather_within
  · intro a
    simp only [occurrences, select, hbackend]
    rfl
  · intro v
    apply Library.occurrenceInfo_within honest

end RecordReader

/-! ### Uses of a store -/

section

variable {store : Store Archive} (honest : store.library.Honest)

include honest

/-- The error object for a unit that is not there is disposed of at once. -/
theorem Store.unitTime_within (unit : String) :
  (store.unitTime unit).Within (Calm handedOut .store store.ref directory)
  := by
  have hbackend : store.library.backend = Archive.backend := honest
  refine Access.within_bind (Access.within_terminated unit) ?_
  intro octets a hopen
  obtain ⟨s, hs, rfl⟩ := store_of_has hopen
  have hsettles : Settles handedOut s.directory a
      ((Archive.unitTime store.ref octets a).1.error, (Archive.unitTime store.ref octets a).2) :=
    unitTime_settles hs octets
  simp only [bind, Access.bind, Access.step, hbackend, Archive.backend]
  split
  · exact Library.quiet_failure honest _ hsettles
  case isFalse hanswer =>
      simp only [Bool.or_eq_true, not_or, Bool.not_eq_true, Option.isSome_eq_false_iff,
        Option.isNone_iff_eq_none] at hanswer
      exact hsettles.quiet hanswer.2

theorem Store.discardRecord_within (record : String) :
  (store.discardRecord record).Within (Calm handedOut .store store.ref directory)
  := by
  have hbackend : store.library.backend = Archive.backend := honest
  refine Access.within_bind (Access.within_terminated record) ?_
  intro octets a hopen
  obtain ⟨s, hs, rfl⟩ := store_of_has hopen
  simp only [Access.change, hbackend]
  exact quiet_changeContents hs fun c => c.discardRecord (Text.decode octets)

theorem Store.purge_within :
  store.purge.Within (Calm handedOut .store store.ref directory)
  := by
  have hbackend : store.library.backend = Archive.backend := honest
  intro a hopen
  obtain ⟨s, hs, rfl⟩ := store_of_has hopen
  simp only [purge, Access.change, hbackend]
  exact quiet_changeContents hs StoreContents.purge

/-- A unit reader that is opened for one access is closed after it. -/
theorem Store.withUnit_within (name : String) {use : UnitReader Archive → Access Archive α}
    (huse : ∀ r : UnitReader Archive, r.store = store → ∀ d,
      (use r).Within (Calm handedOut .unit r.ref d)) :
  (store.withUnit name use).Within (Calm handedOut .store store.ref directory)
  := by
  intro a hopen
  apply Access.quiet_opened (UnitReader.openIn_opens honest name hopen) huse
  intro r hstore a' ha' hhas
  have hbackend : r.library.backend = Archive.backend := UnitReader.honest_of_store honest hstore
  obtain ⟨u, hu, rfl⟩ := unit_of_has hhas
  rw [UnitReader.close, hbackend]
  exact ha'.disposeUnitReader hu

/-- A record reader that is opened for one access is closed after it. -/
theorem Store.withRecord_within (name : String) {use : RecordReader Archive → Access Archive α}
    (huse : ∀ r : RecordReader Archive, r.store = store → ∀ d,
      (use r).Within (Calm handedOut .record r.ref d)) :
  (store.withRecord name use).Within (Calm handedOut .store store.ref directory)
  := by
  intro a hopen
  apply Access.quiet_opened (RecordReader.openIn_opens honest name hopen) huse
  intro r hstore a' ha' hhas
  have hbackend : r.library.backend = Archive.backend := RecordReader.honest_of_store honest hstore
  obtain ⟨record, hrecord, rfl⟩ := record_of_has hhas
  rw [RecordReader.close, hbackend]
  exact ha'.disposeRecordReader hrecord

/-- Looking through the units leaves none of their readers open. -/
theorem Store.unitNamesFiltered_within (includeSystem : Bool) :
  (store.unitNamesFiltered includeSystem).Within (Calm handedOut .store store.ref directory)
  := by
  refine Access.within_bind (unitNames_within honest false).of_eq ?_
  intro names
  split
  · apply Access.within_pure
  · apply Access.within_filterM
    intro name
    have hview : (store.withUnit name UnitReader.view).Within
        (Calm handedOut .store store.ref directory) :=
      withUnit_within honest name fun r _ d => r.view_within.of_eq
    refine Access.within_bind hview ?_
    intro result
    rcases result with (e | message) | v
    · apply Access.within_pure
    · apply refl_of
    · apply Access.within_pure

end

end SymbolIndex
