import SymbolIndex.Archive.Readers
import SymbolIndex.Proofs.Accounts.Archive

/-!
# What the operations of the archive enter into its books

Each operation works on one directory. It opens or closes one object there, or leaves an error
object behind, or does neither. What it hands back says which.
-/

namespace SymbolIndex

open Text (Octets)
open HandlerCall (releases)

namespace Archive

variable {a : Archive} {handedOut : Nat} {directory : Path}

/-- Nothing is entered for what is kept outside the books. -/
theorem quiet_of_same {a' : Archive} (hledger : a'.ledger = a.ledger)
    (hstores : a'.stores = a.stores) (hrecords : a'.records = a.records)
    (hunits : a'.units = a.units) (herrors : a'.errors = a.errors) :
  Quiet handedOut directory a a'
  := by
  intro ha
  have hrolls : a'.rolls = a.rolls := by
    funext k
    cases k <;> simp only [rolls, hstores, hrecords, hunits, herrors]
  have hnext : a'.next = a.next := by
    funext k
    cases k <;> simp only [next, hstores, hrecords, hunits, herrors]
  have hbooks : a'.books = a.books := by
    simp only [books, hrolls, hnext, hledger]
  constructor
  · exact ⟨hbooks ▸ ha.books, hstores ▸ ha.stores⟩
  · exact hrolls
  · simp [handlersAt, hledger, hstores]
  · simp [hledger]

/-- Options are outside the books. -/
theorem quiet_options (a : Archive) (options : Table (List (String × String))) :
  Quiet handedOut directory a { a with options }
  := by
  apply quiet_of_same <;> rfl

/-- The disk is outside the books. -/
theorem quiet_disk (a : Archive) (disk : Disk) :
  Quiet handedOut directory a { a with disk }
  := by
  apply quiet_of_same <;> rfl

/-! ### Error objects -/

theorem Sound.report (ha : a.Sound handedOut) (directory : Path) (description : String) :
  Follows handedOut ⟨directory, false⟩ (a.rolls.add .error a.errors.next directory) a
    (a.report directory description).2
  := by
  apply ha.follows_create_beside .error
  case hstores => rfl
  case hledger => rfl
  case hnext =>
      funext k
      cases k <;> rfl
  case hrolls =>
      funext k
      cases k
      case error => simp [Archive.report, enter, rolls, Rolls.add, next]
      all_goals rfl

theorem Sound.disposeError (ha : a.Sound handedOut) {ref : Nat} {e : ArchiveError}
    (h : a.errors.get? ref = some e) :
  Follows handedOut ⟨e.directory, false⟩ (a.rolls.remove .error ref) a
    (disposeError (.own ref) a)
  := by
  simp only [Archive.disposeError, h]
  apply ha.follows_dispose_beside .error
  case hstores => rfl
  case hledger => rfl
  case hopen => simp [rolls, Table.find_roll, h]
  case hnext =>
      funext k
      cases k <;> rfl
  case hrolls =>
      funext k
      cases k
      case error => simp [enter, rolls, Rolls.remove]
      all_goals rfl

/-- An error object that is disposed of at once leaves nothing behind. -/
theorem quiet_reported (directory : Path) (description : String) :
  Quiet handedOut directory a
    (disposeError (a.report directory description).1 (a.report directory description).2)
  := by
  intro ha
  have hreport := ha.report directory description
  have hfresh : ∀ e ∈ a.rolls .error, e.1 ≠ a.errors.next := by
    intro e he
    exact Nat.ne_of_lt (ha.books.fresh .error e he)
  have hget : (a.report directory description).2.errors.get? a.errors.next
      = some { directory, description } := ha.errorTable.get?_insert _
  have hdispose := hreport.sound.disposeError hget
  rw [hreport.rolls, Rolls.remove_add _ _ _ hfresh] at hdispose
  exact hreport.trans hdispose

/-- The answer of an operation that opens and closes nothing. An error object that comes with it
has been made for it. -/
def Settles (handedOut : Nat) (directory : Path) (a : Archive)
    (answer : Option ErrorRef × Archive) : Prop :=
  ∃ a₁, Quiet handedOut directory a a₁
    ∧ (answer = (none, a₁)
      ∨ ∃ description, answer = (some (a₁.report directory description).1,
          (a₁.report directory description).2))

theorem Settles.quiet {answer : Option ErrorRef × Archive}
    (h : Settles handedOut directory a answer) (hnone : answer.1 = none) :
  Quiet handedOut directory a answer.2
  := by
  obtain ⟨a₁, hquiet, rfl | ⟨description, rfl⟩⟩ := h
  · exact hquiet
  · cases hnone

/-- The answer of an operation that opens an object, or gives an error object in its place. -/
def Opens (handedOut : Nat) (k : ObjectKind) (directory : Path) (a : Archive)
    (answer : Created × Archive) : Prop :=
  (∃ description, answer = a.refuse directory description)
    ∨ answer.1 = ⟨some (a.next k), none⟩
      ∧ (a.Sound handedOut →
        Follows handedOut ⟨directory, false⟩ (a.rolls.add k (a.next k) directory) a answer.2)

/-! ### Readers -/

theorem createRecordReader_opens {store : StoreRef} {s : ArchiveStore}
    (h : a.stores.get? store = some s) (octets : Octets) :
  Opens handedOut .record s.directory a (createRecordReader store octets a)
  := by
  simp only [createRecordReader, h]
  split
  case h_1 =>
      left
      exact ⟨_, rfl⟩
  case h_2 =>
      split
      case h_1 =>
          left
          exact ⟨_, rfl⟩
      case h_2 =>
          right
          use rfl
          intro ha
          apply ha.follows_create_beside .record
          case hstores => rfl
          case hledger => rfl
          case hnext =>
              funext k
              cases k <;> rfl
          case hrolls =>
              funext k
              cases k
              case record => simp [enter, rolls, Rolls.add, next]
              all_goals rfl

theorem createUnitReader_opens {store : StoreRef} {s : ArchiveStore}
    (h : a.stores.get? store = some s) (octets : Octets) :
  Opens handedOut .unit s.directory a (createUnitReader store octets a)
  := by
  simp only [createUnitReader, h]
  split
  case h_1 =>
      left
      exact ⟨_, rfl⟩
  case h_2 =>
      right
      use rfl
      intro ha
      apply ha.follows_create_beside .unit
      case hstores => rfl
      case hledger => rfl
      case hnext =>
          funext k
          cases k <;> rfl
      case hrolls =>
          funext k
          cases k
          case unit => simp [enter, rolls, Rolls.add, next]
          all_goals rfl

theorem Sound.disposeRecordReader (ha : a.Sound handedOut) {ref : RecordRef} {r : ArchiveRecord}
    (h : a.records.get? ref = some r) :
  Follows handedOut ⟨r.directory, false⟩ (a.rolls.remove .record ref) a
    (disposeRecordReader ref a)
  := by
  simp only [Archive.disposeRecordReader, h]
  apply ha.follows_dispose_beside .record
  case hstores => rfl
  case hledger => rfl
  case hopen => simp [rolls, Table.find_roll, h]
  case hnext =>
      funext k
      cases k <;> rfl
  case hrolls =>
      funext k
      cases k
      case record => simp [enter, rolls, Rolls.remove]
      all_goals rfl

theorem Sound.disposeUnitReader (ha : a.Sound handedOut) {ref : UnitRef} {u : ArchiveUnit}
    (h : a.units.get? ref = some u) :
  Follows handedOut ⟨u.directory, false⟩ (a.rolls.remove .unit ref) a
    (disposeUnitReader ref a)
  := by
  simp only [Archive.disposeUnitReader, h]
  apply ha.follows_dispose_beside .unit
  case hstores => rfl
  case hledger => rfl
  case hopen => simp [rolls, Table.find_roll, h]
  case hnext =>
      funext k
      cases k <;> rfl
  case hrolls =>
      funext k
      cases k
      case unit => simp [enter, rolls, Rolls.remove]
      all_goals rfl

/-- Asking for the occurrences on some lines is counted for the directory of the record. -/
theorem quiet_countQuery {ref : RecordRef} {r : ArchiveRecord} (h : a.records.get? ref = some r)
    (selection : Selection) :
  Quiet handedOut r.directory a (countQuery ref selection a)
  := by
  intro ha
  cases selection with
  | lines start count =>
      let counted : Tally → Tally := fun t => { t with lineRangeQueries := t.lineRangeQueries + 1 }
      have hquery : countQuery ref (.lines start count) a = a.enter r.directory counted := by
        simp only [countQuery, h, counted]
      have hledger : (a.enter r.directory counted).ledger = a.ledger.enter r.directory counted := rfl
      -- The count of queries is none of the counts of objects.
      have hcount : ∀ d, ((a.enter r.directory counted).ledger.tally d).count
          = (a.ledger.tally d).count := by
        intro d
        by_cases hd : d = r.directory
        · simp only [enter, Ledger.enter, hd, ↓reduceIte]
          funext k
          cases k <;> rfl
        · simp [enter, Ledger.enter, hd]
      have hhandlers : ∀ d, (a.enter r.directory counted).handlersAt d = a.handlersAt d :=
        handlersAt_entered rfl hledger fun _ => rfl
      rw [hquery]
      constructor
      · constructor
        · have hbooks := ha.books
          simp only [books, ← hcount] at hbooks
          exact hbooks
        · exact ha.stores
      · rfl
      · intro d
        rw [hhandlers]
        simp
      · intro d hd
        rw [hledger, tally_enter _ _ hd]
  | all => exact Quiet.refl a ha
  | ofSymbols symbols related => exact Quiet.refl a ha

/-! ### Stores -/

theorem createStore_opens (octets : Octets) (options : Option OptionsRef) :
  Opens handedOut .store (Path.ofText (Text.decode octets)) a (createStore octets options a)
  := by
  rw [createStore]
  split
  case h_1 =>
      left
      exact ⟨_, rfl⟩
  case h_2 contents _ =>
      right
      use rfl
      intro ha
      apply ha.follows_create (Tally.count_change .store Count.create)
      case hledger => rfl
      case hnext =>
          funext k
          cases k <;> rfl
      case hrolls =>
          funext k
          cases k
          case store => simp [enter, rolls, Rolls.add, next, ArchiveStore.directory]
          all_goals rfl
      case hstores =>
          intro s hs
          simp only [enter, Table.values, Table.insert, List.map_append, List.mem_append,
            List.map_cons, List.map_nil, List.mem_singleton] at hs
          rcases hs with hs | rfl
          · exact ha.stores s hs
          · exact ⟨by simp, by simp⟩
      case hhandlers =>
          intro d
          by_cases hd : d = Path.ofText (Text.decode octets)
          · simp [handlersAt, enter, Ledger.enter, hd, ArchiveStore.kept, ArchiveStore.replaced]
          · simp [handlersAt, enter, Ledger.enter, hd, ArchiveStore.kept, ArchiveStore.replaced]

/-- A store that is closed lets go of its handlers. -/
theorem Sound.disposeStore (ha : a.Sound handedOut) {ref : StoreRef} {s : ArchiveStore}
    (h : a.stores.get? ref = some s) :
  Follows handedOut ⟨s.directory, false⟩ (a.rolls.remove .store ref) a (disposeStore ref a).2
  := by
  simp only [Archive.disposeStore, h]
  let finalize : Tally → Tally := fun t =>
    { t with
      stores := t.stores.dispose
      handlersFinalized := t.handlersFinalized + releases s.close }
  apply ha.follows_dispose (k := .store) (f := finalize)
  case hopen => simp [rolls, Table.find_roll, h]
  case hf =>
      intro t j
      cases j <;> rfl
  case hledger =>
      simp only [enter, countReleases, Ledger.enter, Ledger.mk.injEq]
      funext d
      by_cases hd : d = s.directory <;> simp [hd, finalize, releases]
  case hnext =>
      funext k
      cases k <;> rfl
  case hrolls =>
      funext k
      cases k
      case store => simp [enter, countReleases, rolls, Rolls.remove]
      all_goals rfl
  case hstores =>
      intro s₁ hs₁
      apply ha.stores
      obtain ⟨e, he, rfl⟩ := List.mem_map.mp hs₁
      exact List.mem_map_of_mem (List.mem_of_mem_filter he)
  case hhandlers =>
      intro d
      have htotal := ha.storeTable.total_erase
        (fun s => if s.directory = d then s.kept else 0) h
      simp only [handlersAt, enter, countReleases, Ledger.enter, htotal]
      have hclose := s.releases_close
      rw [releases] at hclose
      by_cases hd : d = s.directory
      · subst hd
        simp only [↓reduceIte, hclose]
        omega
      · simp [hd, Ne.symm hd]

/-- A change of an open store by which the library may let go of handlers. -/
theorem Sound.withStore (ha : a.Sound handedOut) {ref : StoreRef} {s : ArchiveStore}
    {f : ArchiveStore → List HandlerCall × ArchiveStore} {later : Nat} {installs : Bool}
    (h : a.stores.get? ref = some s) (hpath : (f s).2.path = s.path) (hlater : handedOut ≤ later)
    (horderly : (f s).2.Orderly later)
    (hkept : releases (f s).1 + (f s).2.kept = s.kept + if installs then 1 else 0) :
  Follows later ⟨s.directory, installs⟩ a.rolls a (withStore ref f a).2
  := by
  simp only [Archive.withStore, h]
  apply ha.follows_modify (g := fun _ => (f s).2) (n := releases (f s).1) h
  case hstores => rfl
  case hrecords => rfl
  case hunits => rfl
  case herrors => rfl
  case hledger =>
      intro d
      rfl
  case hpath => exact hpath
  case hlater => exact hlater
  case horderly => exact horderly
  case hkept => exact hkept

theorem Sound.setHandler (ha : a.Sound handedOut) {ref : StoreRef} {s : ArchiveStore}
    (h : a.stores.get? ref = some s) :
  Follows (handedOut + 1) ⟨s.directory, true⟩ a.rolls a (setHandler ref handedOut a).2
  := by
  have hs := ha.orderly h
  apply ha.withStore h
  case hpath => rfl
  case hlater => omega
  case horderly => exact hs.setHandler
  case hkept =>
      apply ArchiveStore.releases_setHandler
      intro p hp
      exact Nat.ne_of_lt (hs.pending p hp).2

theorem quiet_stopListening {ref : StoreRef} {s : ArchiveStore}
    (h : a.stores.get? ref = some s) :
  Quiet handedOut s.directory a (stopListening ref a).2
  := by
  intro ha
  apply ha.withStore h
  case hpath => simp [ArchiveStore.stopListening]
  case hlater => apply Nat.le_refl
  case horderly => exact (ha.orderly h).stopListening
  case hkept => apply ArchiveStore.releases_stopListening

theorem quiet_background {ref : StoreRef} {s : ArchiveStore}
    (h : a.stores.get? ref = some s) :
  Quiet handedOut s.directory a (background ref a).2
  := by
  intro ha
  apply ha.withStore h
  case hpath => simp
  case hlater => apply Nat.le_refl
  case horderly => exact (ha.orderly h).deliverPending
  case hkept => apply ArchiveStore.releases_deliverPending

theorem quiet_changeContents {ref : StoreRef} {s : ArchiveStore}
    (h : a.stores.get? ref = some s) (f : StoreContents → StoreContents) :
  Quiet handedOut s.directory a (changeContents ref f a)
  := by
  intro ha
  simp only [changeContents, h]
  apply ha.follows_modify (g := fun x => { x with contents := f s.contents }) (n := 0) h
  case hstores => rfl
  case hrecords => rfl
  case hunits => rfl
  case herrors => rfl
  case hledger =>
      intro d
      split <;> rfl
  case hpath => rfl
  case hlater => apply Nat.le_refl
  case horderly => exact ⟨(ha.orderly h).handler, (ha.orderly h).pending⟩
  case hkept => apply Nat.zero_add

theorem quiet_discardUnit {ref : StoreRef} {s : ArchiveStore}
    (h : a.stores.get? ref = some s) (octets : Octets) :
  Quiet handedOut s.directory a (discardUnit ref octets a).2
  := by
  simp only [discardUnit, h]
  split
  · exact Quiet.refl a
  · exact quiet_changeContents h fun c => c.discardUnit (Text.decode octets)

theorem startListening_settles {ref : StoreRef} {s : ArchiveStore}
    (h : a.stores.get? ref = some s) (wait : Bool) :
  let answer := startListening ref wait a
  Settles handedOut s.directory a (answer.1.error, answer.2)
  := by
  simp only [startListening, h]
  split
  case isTrue => exact ⟨a, Quiet.refl a, .inl rfl⟩
  split
  case isTrue => exact ⟨a, Quiet.refl a, .inr ⟨_, rfl⟩⟩
  case isFalse hlistening =>
      let listening : ArchiveStore :=
        { s with
          listening := true
          pending := if wait then none else
            s.handler.map fun h => (h, ArchiveStore.notification true .added s.contents.unitNames) }
      use { a with stores := a.stores.modify ref fun _ => listening }
      constructor
      · intro ha
        have hs := ha.orderly h
        have hsettled : s.pending = none := by
          cases hp : s.pending with
          | none => rfl
          | some p => exact absurd (hs.pending p hp).1 hlistening
        apply ha.follows_modify (g := fun _ => listening) (n := 0) h
        case hstores => rfl
        case hrecords => rfl
        case hunits => rfl
        case herrors => rfl
        case hledger =>
            intro d
            split <;> rfl
        case hpath => rfl
        case hlater => apply Nat.le_refl
        case horderly =>
            use hs.handler
            intro p hp
            cases wait with
            | true => simp [listening] at hp
            | false =>
                obtain ⟨g, hg, rfl⟩ : ∃ g, s.handler = some g
                    ∧ (g, ArchiveStore.notification true .added s.contents.unitNames) = p := by
                  simpa [listening] using hp
                exact ⟨rfl, hs.handler g hg⟩
        case hkept =>
            have hreplaced : listening.replaced = 0 := by
              cases wait with
              | true => simp [listening, ArchiveStore.replaced]
              | false => cases hg : s.handler <;> simp [listening, ArchiveStore.replaced, hg]
            have hkept : listening.kept = s.handler.toList.length := by
              rw [ArchiveStore.kept, hreplaced]
              rfl
            simp [hkept, ArchiveStore.kept_of_settled hsettled]
      · split
        · right
          exact ⟨_, rfl⟩
        · left
          rfl

theorem unitTime_settles {ref : StoreRef} {s : ArchiveStore}
    (h : a.stores.get? ref = some s) (octets : Octets) :
  let answer := unitTime ref octets a
  Settles handedOut s.directory a (answer.1.error, answer.2)
  := by
  use a, Quiet.refl a
  simp only [unitTime, h]
  split
  · left
    rfl
  · right
    exact ⟨_, rfl⟩

end Archive

end SymbolIndex
