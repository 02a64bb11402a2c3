import SymbolIndex.Proofs.Archive.Deliveries
import SymbolIndex.Proofs.Contents.Faithful

/-!
# Copies of a record

A record can be opened if it is in its store and whole, and otherwise there is an error that says
what is missing. What is copied through its reader then is the record, by either convention: the
symbols in their order, with what their numbers mean, and the occurrences in the order of the
source, each with its symbol and its relations.
-/

namespace SymbolIndex

/-- What is copied through a reader is a record. -/
structure RecordReader.GivesBack (r : RecordReader Archive) (entry : RecordEntry) (a : Archive) :
    Prop where
  symbols : ∃ copies, (r.symbolInfos a).1 = .ok copies
    ∧ List.Forall₂ SymbolEntry.CopiedAs entry.symbols copies
  /-- The symbols to ask for show the same. -/
  cachedSymbols : ∃ held, (r.cachedSymbols a).1 = .ok held
    ∧ List.Forall₂ (fun s v => SymbolEntry.CopiedAs s v.view.info) entry.symbols held
  occurrences : ∃ sorted copies, OccurrenceEntry.Ordered entry.occurrences sorted
    ∧ (r.occurrenceInfos a).1 = .ok copies
    ∧ List.Forall₂ entry.CopiesOccurrence sorted copies

namespace RecordReader

variable {r : RecordReader Archive} {entry : RecordEntry} {s : Scene}

/-- A reader that is open gives back its record, by either convention. -/
theorem OpenIn.givesBack (h : r.OpenIn entry s) (c : Convention) :
  (r.calling c).GivesBack entry s.2
  := by
  have honest : (r.calling c).library.Honest := r.library.withArchive_honest c
  obtain ⟨directory, hshown⟩ := h.hasRecord.2.shown
  have hshows : s.2.ShowsRecord (r.calling c).ref entry := ⟨_, _, hshown, rfl, rfl⟩
  constructor
  · exact ⟨_, congrArg Prod.fst (symbolInfos_eq honest hshows), entry.copies_symbols⟩
  · refine ⟨_, congrArg Prod.fst (cachedSymbols_honest honest s.2), ?_⟩
    have hcopies := entry.copies_symbols
    rw [← entry.info_symbolViews r.ref, List.forall₂_map_right_iff] at hcopies
    rw [ref_calling, h.hasRecord.2.symbolsOf_eq, List.forall₂_map_right_iff]
    exact hcopies
  · exact ⟨_, _, entry.ordered_inSourceOrder,
      congrArg Prod.fst (occurrenceInfos_eq honest hshows), h.whole.copies_occurrences⟩

end RecordReader

namespace Store

variable {store : Store Archive} {mappings : List (String × String)} {contents : StoreContents}
  {s : Scene} {name : String}

namespace OpenWith

variable (h : store.OpenWith mappings contents s) (hzero : '\x00' ∉ name.toList)

include h hzero

theorem opensRecord_iff :
  (∃ r, (RecordReader.openIn store name s.2).1 = .ok r)
    ↔ ∃ entry, contents.record? name = some entry ∧ entry.Whole
  := by
  simp only [← StoreContents.openRecord_eq_ok]
  constructor
  · rintro ⟨r, hr⟩
    cases hopened : contents.openRecord name with
    | ok entry => exact ⟨entry, rfl⟩
    | error halt =>
        rw [h.openRecord_of_error hzero hopened] at hr
        cases hr
  · rintro ⟨entry, hentry⟩
    exact ⟨_, congrArg Prod.fst (h.openRecord_of_ok hzero hentry)⟩

theorem openRecord_of_none (hmissing : contents.record? name = none) :
  (RecordReader.openIn store name s.2).1
    = .error (.error (.store ⟨"record_reader_create", "record not found: " ++ name⟩))
  := by
  apply h.openRecord_of_error hzero
  rw [StoreContents.openRecord, hmissing]
  rfl

theorem openRecord_of_not_whole {entry : RecordEntry}
    (hentry : contents.record? name = some entry) (hwhole : ¬ entry.Whole) :
  ∃ before i rest, entry.references = before ++ i :: rest
    ∧ (∀ j ∈ before, entry.Holds j)
    ∧ ¬ entry.Holds i
    ∧ (RecordReader.openIn store name s.2).1 = .error (.error (.store ⟨"record_reader_create",
        "record " ++ name ++ " refers to missing symbol " ++ toString i.toNat⟩))
  := by
  obtain ⟨before, i, rest, hreferences, hbefore, hlacks, hrefused⟩ :=
    StoreContents.openRecord_of_not_whole hentry hwhole
  exact ⟨before, i, rest, hreferences, hbefore, hlacks, h.openRecord_of_error hzero hrefused⟩

end OpenWith

/-- A record of an open store can be opened if the first record of its name is whole. Otherwise the
caller is told that there is none, or which symbol is the first one that is missed. What is copied
through the reader is the record, by either convention and at any time until the reader is
closed. -/
theorem openRecord_openWith (h : store.OpenWith mappings contents s)
    (hzero : '\x00' ∉ name.toList) :
  let opening := RecordReader.openIn store name s.2
  let opened := s.after store.ref (.openRecord name)
  ((∃ r, opening.1 = .ok r) ↔ ∃ entry, contents.record? name = some entry ∧ entry.Whole)
    ∧ (contents.record? name = none →
        opening.1 = .error (.error (.store
          ⟨"record_reader_create", "record not found: " ++ name⟩)))
    ∧ ∀ entry, contents.record? name = some entry →
        (¬ entry.Whole → ∃ before i rest, entry.references = before ++ i :: rest
          ∧ (∀ j ∈ before, entry.Holds j)
          ∧ ¬ entry.Holds i
          ∧ opening.1 = .error (.error (.store ⟨"record_reader_create",
              "record " ++ name ++ " refers to missing symbol " ++ toString i.toNat⟩)))
        ∧ (entry.Whole → ∃ r, opening = (.ok r, opened.2)
          ∧ ∀ calls, .deed (.onRecord r.ref .close) ∉ calls → ∀ c,
              (r.calling c).GivesBack entry (opened.called calls).2)
  := by
  intro opening opened
  refine ⟨h.opensRecord_iff hzero, h.openRecord_of_none hzero, fun entry hentry => ?_⟩
  refine ⟨h.openRecord_of_not_whole hzero hentry, fun hwhole => ?_⟩
  have hopens := StoreContents.openRecord_eq_ok.mpr ⟨hentry, hwhole⟩
  refine ⟨_, h.openRecord_of_ok hzero hopens, fun calls hclose c => ?_⟩
  exact ((h.opensRecord hzero hopens).called hclose).givesBack c

/-- The store has two records of one name. The first one is whole: in it two occurrences are at one
place, and a kind is unknown. Of the symbols to which a third record refers, the one of its second
relation is the first one that is missed. -/
theorem openRecord_openWith_first :
  let first : RecordEntry :=
    { name := "r", symbols := [{ name := "a", kind := 999 }, { name := "b", kind := 12 }]
      occurrences := [{ symbol := 1, line := 2, relations := [{ symbol := 0, roles := 1 }] },
        { symbol := 0, line := 1, roles := 2 }, { symbol := 0, line := 2 }] }
  let third : RecordEntry :=
    { name := "q", symbols := [{}]
      occurrences := [{ symbol := 3, relations := [{ symbol := 0 }, { symbol := 5 }] }] }
  let contents : StoreContents := { records := [first, { third with name := "r" }, third] }
  ∃ (store : Store Archive) (s : Scene), store.OpenWith [] contents s
    ∧ '\x00' ∉ "r".toList ∧ '\x00' ∉ "q".toList
    ∧ (∃ r, RecordReader.openIn store "r" s.2 = (.ok r, (s.after store.ref (.openRecord "r")).2)
      ∧ ∀ calls, .deed (.onRecord r.ref .close) ∉ calls → ∀ c,
          (r.calling c).GivesBack first ((s.after store.ref (.openRecord "r")).called calls).2)
    ∧ (RecordReader.openIn store "q" s.2).1 = .error (.error (.store
        ⟨"record_reader_create", "record q refers to missing symbol 5"⟩))
  := by
  intro first third contents
  have hzero : '\x00' ∉ "r".toList := by decide
  have hzero' : '\x00' ∉ "q".toList := by decide
  have hwhole : first.Whole := first.missingSymbol?_eq_none.mp (by decide)
  have hbroken : ¬ third.Whole := by
    rw [← third.missingSymbol?_eq_none]
    decide
  obtain ⟨store, s, h⟩ := exists_openWith contents [] (by simp)
  obtain ⟨-, -, hfirst⟩ := openRecord_openWith h hzero
  obtain ⟨-, -, hthird⟩ := openRecord_openWith h hzero'
  refine ⟨store, s, h, hzero, hzero', (hfirst first rfl).2 hwhole, ?_⟩
  obtain ⟨before, i, rest, hreferences, hbefore, hlacks, hrefused⟩ := (hthird third rfl).1 hbroken
  have hmissed : i = 5 := by
    have hmissing : third.missingSymbol? = some i :=
      third.missingSymbol?_eq_some.mpr ⟨hlacks, before, rest, hreferences, hbefore⟩
    exact (Option.some.inj hmissing).symm
  rw [hrefused, hmissed]
  rfl

end Store

end SymbolIndex
