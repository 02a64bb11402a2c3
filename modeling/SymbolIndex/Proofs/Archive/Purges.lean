import SymbolIndex.Proofs.Answers.References
import SymbolIndex.Proofs.Isolation.OpenStores
import SymbolIndex.Report.Command

/-!
# Purges

The records that are left by a purge are those of which a client is told that a unit depends on
them. Their names are put together by the library, from the numbers of kinds, and once more by the
client, from the copies of dependencies.
-/

namespace SymbolIndex

open Archive (Presents)

variable {store : Store Archive} {mappings : List (String × String)} {contents : StoreContents}
  {s : Scene} {a : Archive}

/-- A purge leaves the records that the client has been told of. -/
theorem StoreContents.purge_eq_filter (c : StoreContents) :
  c.purge = { c with records := c.records.filter fun r => r.name ∈ c.recordNames }
  := by
  rw [purge]
  congr 2
  funext r
  rw [Bool.eq_iff_iff, List.contains_iff_mem, decide_eq_true_eq, recordNames, mem_sortedDistinct]

namespace Store

section Honest

variable (honest : store.library.Honest) (hdistinct : contents.unitNames.Nodup)
  (hzero : ∀ name ∈ contents.unitNames, '\x00' ∉ name.toList)

include honest

theorem purge_honest (a : Archive) :
  store.purge a = (.ok (), a.changeContents store.ref StoreContents.purge)
  := by
  have hbackend : store.library.backend = Archive.backend := honest
  rw [purge, hbackend]
  rfl

include hdistinct hzero

/-- What is told after a purge is told of the same units. -/
theorem purgeReport_presents (h : a.Presents store.ref mappings contents) :
  let info : PurgeInfo := ⟨store.path, contents.units.length, contents.recordNames.length⟩
  (store.purgeReport a).1 = .ok ⟨info.lines, info.json⟩
    ∧ (store.purgeReport a).2.Presents store.ref mappings contents.purge
  := by
  intro info
  have hunits : (store.unitNames false).Answers (Presents store.ref mappings contents.purge)
      (.ok contents.unitNames) :=
    unitNames_answers honest false
  have hrecords : store.referencedRecords.Answers (Presents store.ref mappings contents.purge)
      (.ok contents.recordNames) :=
    referencedRecords_answers honest hdistinct hzero
  let told : Access Archive PurgeInfo := do
    let units ← store.unitNames false
    let records ← store.referencedRecords
    return { path := store.path, units := units.length, referencedRecords := records.length }
  have htold : told.Answers (Presents store.ref mappings contents.purge)
      (.ok ⟨store.path, contents.unitNames.length, contents.recordNames.length⟩) :=
    hunits.bind_ok (hrecords.bind_ok (Access.answers_pure _))
  rw [StoreContents.unitNames, List.length_map] at htold
  let report : Access Archive Report := told >>= fun info => pure ⟨info.lines, info.json⟩
  have hreport : report.Answers (Presents store.ref mappings contents.purge)
      (.ok ⟨info.lines, info.json⟩) := by
    apply htold.bind_ok
    exact Access.answers_pure _
  have hpurged : store.purgeReport a = report (a.changeContents store.ref StoreContents.purge) := by
    simp only [purgeReport, purgeInfo, bind, Access.bind, purge_honest honest, told, report]
  rw [hpurged]
  exact hreport _ (h.changeContents StoreContents.purge)

end Honest

/-- If the units of an open store can be told apart by their names, a client is told the names of
all records on which a unit depends, each one once and in order. A purge leaves the records of these
names, as they are and in their order, and all units, so that the client is told the same names
again. The report on a purge says how many units there are and how many names. -/
theorem purge_openWith (h : store.OpenWith mappings contents s)
    (hdistinct : contents.unitNames.Nodup)
    (hzero : ∀ name ∈ contents.unitNames, '\x00' ∉ name.toList) :
  let purged := s.after store.ref .purge
  ∃ names : List String, names.Pairwise (· < ·)
    ∧ (∀ name, name ∈ names ↔ ∃ u ∈ contents.units, ∃ d ∈ u.dependencies,
        d.kind = Vocabulary.code DependencyKind.record ∧ d.name = name)
    ∧ (store.referencedRecords s.2).1 = .ok names
    ∧ let left := { contents with records := contents.records.filter fun r => r.name ∈ names }
      let info : PurgeInfo := ⟨store.path, contents.units.length, names.length⟩
      store.OpenWith mappings left purged
        ∧ (store.referencedRecords purged.2).1 = .ok names
        ∧ (Command.purge.report store s.2).1 = .ok ⟨info.lines, info.json⟩
        ∧ (Command.purge.report store s.2).2.Presents store.ref mappings left
  := by
  intro purged
  refine ⟨contents.recordNames, pairwise_sortedDistinct _, fun name => ?_, ?_, ?_⟩
  · rw [StoreContents.recordNames, mem_sortedDistinct, StoreContents.mem_referencedRecords]
    simp only [UnitEntry.mem_records]
  · exact (referencedRecords_answers h.honest hdistinct hzero s.2 h.presents).1
  · rw [← contents.purge_eq_filter]
    have hopen : store.OpenWith mappings contents.purge purged := h.after .purge (by simp)
    have hrecords : store.referencedRecords.Answers (Presents store.ref mappings contents.purge)
        (.ok contents.recordNames) :=
      referencedRecords_answers h.honest hdistinct hzero
    refine ⟨hopen, (hrecords purged.2 hopen.presents).1, ?_⟩
    exact purgeReport_presents h.honest hdistinct hzero h.presents

/-- A unit refers to a record twice, to one that is not there, and to one of which it does not say
that it is a record. Two records have one name. -/
theorem purge_openWith_shared :
  let record (name : String) : DependencyEntry :=
    { kind := Vocabulary.code DependencyKind.record, name }
  let other : RecordEntry := { name := "r", symbols := [{}] }
  let contents : StoreContents := {
    units := [
      { name := "b", dependencies := [record "r", record "gone", record "r", { name := "s" }] },
      { name := "a", dependencies := [record "r", { kind := 99, name := "s" }, record "q"] }]
    records := [{ name := "r" }, { name := "s" }, other, { name := "q" }] }
  ∃ (store : Store Archive) (s : Scene), store.OpenWith [] contents s
    ∧ contents.unitNames.Nodup
    ∧ (∀ name ∈ contents.unitNames, '\x00' ∉ name.toList)
    ∧ (store.referencedRecords s.2).1 = .ok ["gone", "q", "r"]
    ∧ store.OpenWith [] { contents with records := [{ name := "r" }, other, { name := "q" }] }
        (s.after store.ref .purge)
    ∧ let info : PurgeInfo := ⟨store.path, 2, 3⟩
      (Command.purge.report store s.2).1 = .ok ⟨info.lines, info.json⟩
  := by
  intro record other contents
  have hdistinct : contents.unitNames.Nodup := by decide
  have hzero : ∀ name ∈ contents.unitNames, '\x00' ∉ name.toList := by decide
  obtain ⟨store, s, h⟩ := exists_openWith contents [] (by simp)
  obtain ⟨names, hascending, hnames, htold, hleft, -, hreport, -⟩ :=
    purge_openWith h hdistinct hzero
  have hall : names = ["gone", "q", "r"] := by
    apply hascending.eq_of_mem_iff (by decide)
    intro name
    have hplain : (0 : UInt32) ≠ Vocabulary.code DependencyKind.record := by decide
    have hother : (99 : UInt32) ≠ Vocabulary.code DependencyKind.record := by decide
    simp only [hnames, contents, record, List.mem_cons, List.not_mem_nil, or_false,
      exists_eq_or_imp, exists_eq_left, hplain, hother, true_and, false_and]
    grind
  subst hall
  exact ⟨store, s, h, hdistinct, hzero, htold, hleft, hreport⟩

end Store

end SymbolIndex
