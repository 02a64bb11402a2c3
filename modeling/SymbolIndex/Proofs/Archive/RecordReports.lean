import SymbolIndex.Proofs.Answers.References
import SymbolIndex.Proofs.Isolation.OpenStores
import SymbolIndex.Proofs.Text.Order

/-!
# Reports on records

All records on which a unit depends are read one after the other, in the order of their names. If
each of them can be read, the report says of each what a report on it alone would say. Otherwise
it ends with the error of the first one that cannot be read, and nothing is told of the others.
However it ends, the readers that it has opened are closed.
-/

namespace SymbolIndex

open Archive (Aside Calm Presents reads_aside)

variable {α : Type} {store : Store Archive} {mappings : List (String × String)}
  {contents : StoreContents} {s : Scene}

/-! ### Records that can be read -/

namespace StoreContents

variable {c : StoreContents} {name : String}

/-- The name can be asked for, and there is a record of the name that holds every symbol to which
it refers. -/
structure Readable (c : StoreContents) (name : String) : Prop where
  zero : '\x00' ∉ name.toList
  whole : ∃ entry, c.record? name = some entry ∧ entry.Whole

/-- What is read of the record of a name, or the refusal to read it. -/
def recordInfo (c : StoreContents) (name : String) : Except Halt RecordInfo :=
  Text.checked name (Text.quoted name)
    ((c.openRecord name).map fun entry => ⟨name, entry.symbolInfos, entry.occurrenceInfos⟩)

/-- A record is read if it can be, and otherwise it is refused with an error. -/
theorem recordInfo_cases (c : StoreContents) (name : String) :
  (∃ info, c.recordInfo name = .ok info ∧ info.name = name ∧ c.Readable name)
    ∨ ∃ err, c.recordInfo name = .error (.error err) ∧ ¬ c.Readable name
  := by
  rw [recordInfo, Text.checked]
  split
  case isTrue hzero => exact .inr ⟨_, rfl, fun h => h.zero hzero⟩
  case isFalse hzero =>
      cases hentry : c.record? name with
      | none =>
          right
          rw [openRecord, hentry]
          refine ⟨_, rfl, fun h => ?_⟩
          obtain ⟨entry, hentry', -⟩ := h.whole
          cases hentry.symm.trans hentry'
      | some entry =>
          cases hmissing : entry.missingSymbol? with
          | none =>
              left
              have hwhole := entry.missingSymbol?_eq_none.mp hmissing
              rw [openRecord_eq_ok.mpr ⟨hentry, hwhole⟩]
              exact ⟨_, rfl, rfl, hzero, entry, hentry, hwhole⟩
          | some i =>
              right
              rw [openRecord, hentry]
              simp only [hmissing]
              refine ⟨_, rfl, fun h => ?_⟩
              obtain ⟨entry', hentry', hwhole⟩ := h.whole
              obtain rfl := Option.some.inj (hentry.symm.trans hentry')
              rw [entry.missingSymbol?_eq_none.mpr hwhole] at hmissing
              cases hmissing

theorem exists_recordInfo :
  (∃ info, c.recordInfo name = .ok info) ↔ c.Readable name
  := by
  rcases c.recordInfo_cases name with ⟨info, hinfo, -, hreadable⟩ | ⟨err, herr, hnot⟩
  · exact ⟨fun _ => hreadable, fun _ => ⟨info, hinfo⟩⟩
  · simp [herr, hnot]

theorem name_of_recordInfo {info : RecordInfo} (h : c.recordInfo name = .ok info) :
  info.name = name
  := by
  rcases c.recordInfo_cases name with ⟨info', hinfo, hname, -⟩ | ⟨err, herr, -⟩
  · obtain rfl := Except.ok.inj (hinfo.symm.trans h)
    exact hname
  · cases herr.symm.trans h

theorem exists_error_recordInfo (h : ¬ c.Readable name) :
  ∃ err, c.recordInfo name = .error (.error err)
  := by
  rcases c.recordInfo_cases name with ⟨-, -, -, hreadable⟩ | ⟨err, herr, -⟩
  · exact absurd hreadable h
  · exact ⟨err, herr⟩

end StoreContents

/-! ### What is open -/

/-- The open stores and the disk are as before, and so is what is open of every kind. Everything
that has been created is open or has been disposed of. -/
structure Archive.Tidy (a a' : Archive) : Prop extends Aside a a' where
  rolls : a'.rolls = a.rolls
  books : a'.books.Sound

/-! ### What is told -/

namespace Store

section

variable (honest : store.library.Honest)

include honest

theorem recordInfo_answers (name : String) :
  (store.recordInfo name).Answers (Presents store.ref mappings contents) (contents.recordInfo name)
  := by
  apply withRecord_answers honest name
  intro r entry a hhonest hshows
  simp only [bind, Access.bind, RecordReader.symbolInfos_eq hhonest hshows,
    RecordReader.occurrenceInfos_eq hhonest hshows]
  rfl

theorem reportedRecord_answers (name : String) :
  (store.reportedRecords (some name)).Answers (Presents store.ref mappings contents)
    ([name].mapM contents.recordInfo)
  := by
  apply (Access.answers_pure [name]).bind_ok
  exact Access.answers_mapM fun name _ => recordInfo_answers honest name

theorem reportedRecords_answers (hdistinct : contents.unitNames.Nodup)
    (hzero : ∀ name ∈ contents.unitNames, '\x00' ∉ name.toList) :
  (store.reportedRecords none).Answers (Presents store.ref mappings contents)
    (contents.recordNames.mapM contents.recordInfo)
  := by
  apply (referencedRecords_answers honest hdistinct hzero).bind_ok
  exact Access.answers_mapM fun name _ => recordInfo_answers honest name

/-! ### What is left -/

/-- Units and records are opened and closed one after the other, and to read them changes
nothing. -/
theorem reportedRecords_within {R : Archive → Archive → Prop} [IsPreorder Archive R]
    (hunit : ∀ name (use : UnitReader Archive → Access Archive (List DependencyInfo)),
      (∀ r, r.library.Honest → (use r).Within Eq) → (store.withUnit name use).Within R)
    (hrecord : ∀ name (use : RecordReader Archive → Access Archive RecordInfo),
      (∀ r, r.library.Honest → (use r).Within Eq) → (store.withRecord name use).Within R)
    (name : Option String) :
  (store.reportedRecords name).Within R
  := by
  have hinfo (name : String) : (store.recordInfo name).Within R := by
    apply hrecord
    intro r hhonest
    refine Access.within_bind (RecordReader.symbolInfos_within hhonest) fun symbols => ?_
    refine Access.within_bind (RecordReader.occurrenceInfos_within hhonest) fun occurrences => ?_
    exact Access.within_pure _
  have hrecords (unit : String) : (store.recordsOfUnit unit).Within R := by
    refine Access.within_bind ?_ fun _ => Access.within_pure _
    exact hunit unit _ fun r hhonest => UnitReader.dependencyInfos_within hhonest
  cases name with
  | some name => exact Access.within_bind (Access.within_pure [name]) (Access.within_mapM hinfo)
  | none =>
      refine Access.within_bind ?_ (Access.within_mapM hinfo)
      refine Access.within_bind (unitNames_within honest true).of_eq fun units => ?_
      exact Access.within_bind (Access.within_mapM hrecords units) fun _ => Access.within_pure _

/-- However a report ends, it leaves things as they were. -/
theorem reportedRecords_tidy {handedOut : Nat} {a : Archive} (ha : a.Sound handedOut)
    {x : ArchiveStore} (hx : a.stores.get? store.ref = some x) (name : Option String) :
  a.Tidy (store.reportedRecords name a).2
  := by
  have haside : a.Aside (store.reportedRecords name a).2 := by
    apply reportedRecords_within honest
    · exact fun name use huse => reads_aside.withUnit_within honest name fun r hr => (huse r hr).of_eq
    · exact fun name use huse => reads_aside.withRecord_within honest name fun r hr => (huse r hr).of_eq
  have hcalm : Calm handedOut .store store.ref x.directory a (store.reportedRecords name a).2 := by
    apply reportedRecords_within honest
    · intro name use huse
      apply withUnit_within honest name
      exact fun u hstore d => (huse u (UnitReader.honest_of_store honest hstore)).of_eq
    · intro name use huse
      apply withRecord_within honest name
      exact fun r hstore d => (huse r (RecordReader.honest_of_store honest hstore)).of_eq
  have hopen : a.rolls.Has .store store.ref x.directory := by
    simp [Rolls.Has, Archive.rolls, Table.find_roll, hx]
  have hquiet := hcalm hopen ha
  exact ⟨haside, hquiet.rolls, hquiet.sound.books⟩

end

/-! ### Reports on an open store -/

/-- If the units of an open store can be told apart and asked for by their names, a report on all
records on which a unit depends is given if each of them can be read. It says of each name, in the
order of octets, what a report on it alone says. Otherwise it ends with the error of a report on
the first one that cannot be read. However it ends, every reader that it has opened is closed. -/
theorem reportedRecords_openWith (h : store.OpenWith mappings contents s)
    (hdistinct : contents.unitNames.Nodup)
    (hzero : ∀ name ∈ contents.unitNames, '\x00' ∉ name.toList) :
  let reported (name : Option String) := (store.reportedRecords name s.2).1
  ∃ names : List String, names.Pairwise Text.Before
    ∧ (∀ name, name ∈ names ↔ ∃ u ∈ contents.units, ∃ d ∈ u.dependencies,
        d.kind = Vocabulary.code DependencyKind.record ∧ d.name = name)
    ∧ ((∃ records, reported none = .ok records) ↔ ∀ name ∈ names, contents.Readable name)
    ∧ (∀ records, reported none = .ok records →
        List.Forall₂ (fun name record => record.name = name ∧ reported (some name) = .ok [record])
          names records)
    ∧ (∀ before name rest, names = before ++ name :: rest →
        (∀ other ∈ before, contents.Readable other) → ¬ contents.Readable name →
        ∃ err, reported none = .error (.error err) ∧ reported (some name) = .error (.error err))
    ∧ ∀ name, s.2.Tidy (store.reportedRecords name s.2).2
  := by
  intro reported
  have hall : reported none = contents.recordNames.mapM contents.recordInfo :=
    (reportedRecords_answers h.honest hdistinct hzero s.2 h.presents).1
  have hone (name : String) : reported (some name) = [name].mapM contents.recordInfo :=
    (reportedRecord_answers h.honest name s.2 h.presents).1
  have hgiven (name : String) (record : RecordInfo) (hrecord : contents.recordInfo name = .ok record) :
      record.name = name ∧ reported (some name) = .ok [record] := by
    refine ⟨StoreContents.name_of_recordInfo hrecord, ?_⟩
    rw [hone]
    exact mapM_eq_ok.mpr (.cons hrecord .nil)
  refine ⟨contents.recordNames, ?_, fun name => ?_, ?_, ?_, ?_, ?_⟩
  · exact (pairwise_sortedDistinct _).imp Text.before_iff_lt.mpr
  · rw [StoreContents.recordNames, mem_sortedDistinct, StoreContents.mem_referencedRecords]
    simp only [UnitEntry.mem_records]
  · rw [hall, exists_mapM_ok]
    simp only [StoreContents.exists_recordInfo]
  · intro records hrecords
    rw [hall] at hrecords
    exact (mapM_eq_ok.mp hrecords).imp hgiven
  · intro before name rest hnames hbefore hname
    obtain ⟨err, herr⟩ := StoreContents.exists_error_recordInfo hname
    have hread : ∀ other ∈ before, ∃ info, contents.recordInfo other = .ok info :=
      fun other hother => StoreContents.exists_recordInfo.mpr (hbefore other hother)
    refine ⟨err, ?_, ?_⟩
    · rw [hall, hnames]
      exact mapM_of_error hread herr
    · rw [hone, List.mapM_cons, herr]
      rfl
  · obtain ⟨e, x, -, -, hx, -⟩ := h.held
    exact reportedRecords_tidy h.honest h.sound.archive hx

/-- Of three records the first one can be read, the second one refers to a symbol that it does not
hold, and the third one is not there. -/
theorem reportedRecords_openWith_missing :
  let record (name : String) : DependencyEntry :=
    { kind := Vocabulary.code DependencyKind.record, name }
  let contents : StoreContents := {
    units := [
      { name := "b", dependencies := [record "z", record "m", { name := "file" }] },
      { name := "a", dependencies := [record "m", record "a"] }]
    records := [{ name := "m", symbols := [{}], occurrences := [{ symbol := 1 }] },
      { name := "a", symbols := [{}], occurrences := [{ symbol := 0 }] }] }
  ∃ (store : Store Archive) (s : Scene), store.OpenWith [] contents s
    ∧ contents.unitNames.Nodup
    ∧ (∀ name ∈ contents.unitNames, '\x00' ∉ name.toList)
    ∧ contents.Readable "a" ∧ ¬ contents.Readable "m" ∧ ¬ contents.Readable "z"
    ∧ ∃ err, (store.reportedRecords none s.2).1 = .error (.error err)
      ∧ (store.reportedRecords (some "m") s.2).1 = .error (.error err)
      ∧ s.2.Tidy (store.reportedRecords none s.2).2
  := by
  intro record contents
  have hdistinct : contents.unitNames.Nodup := by decide
  have hzero : ∀ name ∈ contents.unitNames, '\x00' ∉ name.toList := by decide
  have hfirst : contents.Readable "a" :=
    ⟨by decide, _, rfl, (RecordEntry.missingSymbol?_eq_none _).mp rfl⟩
  have hsecond : ¬ contents.Readable "m" := by
    rintro ⟨-, entry, hentry, hwhole⟩
    obtain rfl := Option.some.inj hentry
    cases (RecordEntry.missingSymbol?_eq_none _).mpr hwhole
  have hthird : ¬ contents.Readable "z" := by
    rintro ⟨-, entry, hentry, -⟩
    cases hentry
  obtain ⟨store, s, h⟩ := exists_openWith contents [] (by simp)
  obtain ⟨names, hascending, hnames, -, -, herror, htidy⟩ :=
    reportedRecords_openWith h hdistinct hzero
  have hall : names = ["a", "m", "z"] := by
    apply (hascending.imp Text.before_iff_lt.mp).eq_of_mem_iff (by decide)
    intro name
    have hplain : (0 : UInt32) ≠ Vocabulary.code DependencyKind.record := by decide
    simp only [hnames, contents, record, List.mem_cons, List.not_mem_nil, or_false,
      exists_eq_or_imp, exists_eq_left, hplain, true_and, false_and]
    grind
  subst hall
  obtain ⟨err, hnone, hsome⟩ := herror ["a"] "m" ["z"] rfl (by simpa using hfirst) hsecond
  exact ⟨store, s, h, hdistinct, hzero, hfirst, hsecond, hthird, err, hnone, hsome, htidy none⟩

end Store

end SymbolIndex
