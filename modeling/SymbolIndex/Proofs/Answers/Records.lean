import SymbolIndex.Proofs.Answers.Basic
import SymbolIndex.Proofs.Collection.Completeness
import SymbolIndex.Proofs.Contents.Copies

/-!
# What is read of the records of a store

The copies of the symbols and of the occurrences of a record that is opened are those that the
contents of the store say. A record that is not there, or that refers to a symbol that it does not
hold, cannot be opened.
-/

namespace SymbolIndex

open Archive (Presents)

variable {α : Type} {ref : StoreRef} {mappings : List (String × String)} {c : StoreContents}
  {a : Archive}

/-- A record reader is open and shows the record. -/
def Archive.ShowsRecord (reader : RecordRef) (r : RecordEntry) (a : Archive) : Prop :=
  ∃ y n, a.records.get? reader = some y
    ∧ y.symbols = r.symbolViews n
    ∧ y.occurrences = r.occurrenceViews n

/-- The record of a name, or the refusal to open it. -/
def StoreContents.openRecord (c : StoreContents) (name : String) : Except Halt RecordEntry :=
  match c.record? name with
  | none => StoreError.answer "record_reader_create" ("record not found: " ++ name)
  | some r =>
    match r.missingSymbol? with
    | some i =>
      StoreError.answer "record_reader_create"
        ("record " ++ name ++ " refers to missing symbol " ++ toString i.toNat)
    | none => .ok r

theorem zero_notMem_toString (n : Nat) :
  '\x00' ∉ (toString n).toList
  := by
  intro h
  have hdigits : (toString n).toList = Nat.toDigits 10 n := by simp
  rw [hdigits] at h
  have hdigit := Nat.isDigit_of_mem_toDigits (by decide) (by decide) h
  cases hdigit

namespace Library

variable {l : Library Archive} (honest : l.Honest)

include honest

theorem relationInfo_honest (v : RelationView) (a : Archive) :
  l.relationInfo v a = (.ok v.info, a)
  := by
  have hbackend : l.backend = Archive.backend := honest
  rw [relationInfo_eq, hbackend]
  rfl

theorem occurrenceInfo_honest (v : OccurrenceView) (a : Archive) :
  l.occurrenceInfo v a = (.ok v.info, a)
  := by
  have hbackend : l.backend = Archive.backend := honest
  have hstart : (l.relations v).start (l.relations v).convention a = (.each v.relations, a) := by
    rw [relations, hbackend]
    rfl
  have hrelations : l.relationInfos v a = (.ok (v.relations.map RelationView.info), a) :=
    Listing.gather_each_of hstart fun r => relationInfo_honest honest r a
  rw [occurrenceInfo_eq, hbackend]
  simp only [Archive.backend, hrelations]
  rfl

end Library

namespace RecordReader

variable {r : RecordReader Archive} (honest : r.library.Honest)

include honest

/-- A reader copies the symbols that the archive has for it. -/
theorem symbolInfos_honest (a : Archive) :
  r.symbolInfos a = (.ok ((a.symbolsOf r.ref).map SymbolView.info), a)
  := by
  have hbackend : r.library.backend = Archive.backend := honest
  have hstart : r.symbols.start r.symbols.convention a = (.each (a.symbolsOf r.ref), a) := by
    simp only [symbols, listing, hbackend, Archive.backend]
  exact Listing.gather_each hstart SymbolView.info

theorem cachedSymbols_honest (a : Archive) :
  r.cachedSymbols a = (.ok ((a.symbolsOf r.ref).map (HeldSymbol.mk r.library.identity)), a)
  := by
  have hbackend : r.library.backend = Archive.backend := honest
  have hstart : (r.listing false).start (r.listing false).convention a
      = (.each (a.symbolsOf r.ref), a) := by
    simp only [listing, hbackend, Archive.backend]
  exact Listing.gather_each hstart (HeldSymbol.mk r.library.identity)

theorem occurrenceInfos_honest (a : Archive) :
  r.occurrenceInfos a = (.ok ((a.occurrencesOf r.ref .all).map OccurrenceView.info), a)
  := by
  have hbackend : r.library.backend = Archive.backend := honest
  have hstart : r.occurrences.start r.occurrences.convention a
      = (.each (a.occurrencesOf r.ref .all), a) := by
    simp only [occurrences, select, hbackend, Archive.backend, Archive.countQuery]
  exact Listing.gather_each_of hstart fun v => Library.occurrenceInfo_honest honest v a

/-- A reader copies the symbols of the record that it shows. -/
theorem symbolInfos_eq {entry : RecordEntry} (h : a.ShowsRecord r.ref entry) :
  r.symbolInfos a = (.ok entry.symbolInfos, a)
  := by
  obtain ⟨y, n, hy, hsymbols, -⟩ := h
  rw [symbolInfos_honest honest, Archive.symbolsOf, hy, Option.map_some, Option.getD_some,
    hsymbols, RecordEntry.info_symbolViews]

theorem occurrenceInfos_eq {entry : RecordEntry} (h : a.ShowsRecord r.ref entry) :
  r.occurrenceInfos a = (.ok entry.occurrenceInfos, a)
  := by
  obtain ⟨y, n, hy, -, hoccurrences⟩ := h
  have hall : Selection.all.selects = fun _ => true := rfl
  rw [occurrenceInfos_honest honest, Archive.occurrencesOf, hy, Option.map_some, Option.getD_some,
    hall, List.filter_true, hoccurrences, RecordEntry.info_occurrenceViews]

theorem close_presents (h : a.Presents ref mappings c) :
  (r.close a).Presents ref mappings c
  := by
  have hbackend : r.library.backend = Archive.backend := honest
  simp only [close, hbackend, Archive.backend, Archive.disposeRecordReader]
  split
  · exact h
  · exact ⟨h.opened, h.errors, h.records.erase r.ref, h.units⟩

end RecordReader

/-- A record that is there is opened, if it holds every symbol to which it refers. -/
theorem RecordReader.openIn_opening {store : Store Archive} (honest : store.library.Honest)
    (name : String) :
  (openIn store name).Opening (Presents store.ref mappings c)
    (Text.checked name (Text.quoted name) (c.openRecord name))
    fun r entry a => r.store = store ∧ a.ShowsRecord r.ref entry
  := by
  have hbackend : store.library.backend = Archive.backend := honest
  apply Access.opening_terminated name
  intro hzero
  apply Library.opening_created honest
  intro a h
  obtain ⟨x, hx, rfl, rfl⟩ := h.opened
  simp only [hbackend, Archive.backend, Archive.createRecordReader, hx, Text.decode_octets,
    StoreContents.openRecord]
  cases hentry : x.contents.record? name with
  | none => exact .inl ⟨x.directory, "record not found: " ++ name, rfl, by simp [hzero], rfl⟩
  | some entry =>
      cases hmissing : entry.missingSymbol? with
      | some i =>
          have hdescription : '\x00' ∉ ("record " ++ name ++ " refers to missing symbol "
              ++ toString i.toNat).toList := by
            have hdigits := zero_notMem_toString i.toNat
            simp only [String.toList_append, List.mem_append, not_or]
            exact ⟨⟨⟨by decide, hzero⟩, by decide⟩, hdigits⟩
          exact .inl ⟨x.directory, _, by simp only [hmissing], hdescription, by simp only [hmissing]⟩
      | none =>
          right
          let y : ArchiveRecord := {
            directory := x.directory
            symbols := entry.symbolViews a.records.next
            occurrences := entry.occurrenceViews a.records.next }
          refine ⟨entry, a.records.next, _, by simp only [hmissing]; rfl, by simp only [hmissing],
            ⟨trivial, y, _, h.records.get?_insert y, rfl, rfl⟩, ?_⟩
          exact ⟨h.opened, h.errors, h.records.insert y, h.units⟩

namespace Store

variable {store : Store Archive} (honest : store.library.Honest)

include honest

/-- What is read of a record that is opened for one access. -/
theorem withRecord_answers {use : RecordReader Archive → Access Archive α} (name : String)
    {read : RecordEntry → α}
    (huse : ∀ (r : RecordReader Archive) entry a, r.library.Honest →
      a.ShowsRecord r.ref entry → use r a = (.ok (read entry), a)) :
  (store.withRecord name use).Answers (Presents store.ref mappings c)
    (Text.checked name (Text.quoted name) ((c.openRecord name).map read))
  := by
  rw [← Text.map_checked]
  apply (RecordReader.openIn_opening honest name).answers
  · rintro r entry a ⟨hstore, hshows⟩ _
    exact huse r entry a (RecordReader.honest_of_store honest hstore) hshows
  · rintro r entry a ⟨hstore, -⟩ h
    exact RecordReader.close_presents (RecordReader.honest_of_store honest hstore) h

theorem symbols_answers (name : String) :
  (store.withRecord name RecordReader.symbolInfos).Answers (Presents store.ref mappings c)
    (Text.checked name (Text.quoted name) ((c.openRecord name).map RecordEntry.symbolInfos))
  := by
  apply withRecord_answers honest name
  exact fun r entry a hhonest hshows => RecordReader.symbolInfos_eq hhonest hshows

theorem occurrences_answers (name : String) :
  (store.withRecord name RecordReader.occurrenceInfos).Answers (Presents store.ref mappings c)
    (Text.checked name (Text.quoted name) ((c.openRecord name).map RecordEntry.occurrenceInfos))
  := by
  apply withRecord_answers honest name
  exact fun r entry a hhonest hshows => RecordReader.occurrenceInfos_eq hhonest hshows

end Store

end SymbolIndex
