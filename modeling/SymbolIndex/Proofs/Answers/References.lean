import Mathlib.Data.List.Sort
import Mathlib.Data.String.Basic
import SymbolIndex.Proofs.Answers.Units
import SymbolIndex.Proofs.Vocabulary
import SymbolIndex.Report.Record

/-!
# References of units to records

The names of the records on which the units of a store depend are put together from one unit after
the other. Each of them is told once, in order, however often and in which order units refer to it.
-/

namespace SymbolIndex

/-! ### Texts in order -/

section Repetitions

variable {α : Type} [BEq α]

theorem eraseRepsBy_loop (a : α) (items kept : List α) :
  List.eraseRepsBy.loop (· == ·) a items kept = kept.reverse ++ (a :: items).eraseReps
  := by
  induction items generalizing a kept with
  | nil =>
      rw [List.eraseReps, List.eraseRepsBy, List.eraseRepsBy.loop, List.eraseRepsBy.loop,
        List.reverse_cons, List.reverse_singleton]
  | cons b items ih =>
      rw [List.eraseReps, List.eraseRepsBy, List.eraseRepsBy.loop, List.eraseRepsBy.loop]
      split
      · rw [ih, ih a [], List.reverse_nil, List.nil_append]
      · rw [ih, ih b [a], List.reverse_cons, List.append_assoc, List.reverse_singleton]

variable [LawfulBEq α]

theorem eraseReps_cons_self (a : α) (items : List α) :
  (a :: a :: items).eraseReps = (a :: items).eraseReps
  := by
  rw [List.eraseReps, List.eraseRepsBy, List.eraseRepsBy.loop, beq_self_eq_true]
  exact eraseRepsBy_loop a items []

theorem eraseReps_cons_of_ne {a b : α} (h : a ≠ b) (items : List α) :
  (a :: b :: items).eraseReps = a :: (b :: items).eraseReps
  := by
  rw [List.eraseReps, List.eraseRepsBy, List.eraseRepsBy.loop, beq_eq_false_iff_ne.mpr h]
  exact eraseRepsBy_loop b items [a]

theorem mem_eraseReps {a : α} {items : List α} :
  a ∈ items.eraseReps ↔ a ∈ items
  := by
  induction items with
  | nil => rfl
  | cons b items ih =>
      cases items with
      | nil => rfl
      | cons c items =>
          rw [List.mem_cons, ← ih]
          by_cases hsame : b = c
          · subst hsame
            rw [eraseReps_cons_self, ih, List.mem_cons, ← or_assoc, or_self]
          · rw [eraseReps_cons_of_ne hsame, List.mem_cons]

/-- What is in order without repetitions ascends strictly. -/
theorem pairwise_eraseReps [PartialOrder α] {items : List α} (h : items.Pairwise (· ≤ ·)) :
  items.eraseReps.Pairwise (· < ·)
  := by
  induction items with
  | nil => exact .nil
  | cons b items ih =>
      obtain ⟨hfirst, hrest⟩ := List.pairwise_cons.mp h
      cases items with
      | nil => exact List.pairwise_singleton _ b
      | cons c items =>
          by_cases hsame : b = c
          · subst hsame
            rw [eraseReps_cons_self]
            exact ih hrest
          · rw [eraseReps_cons_of_ne hsame]
            refine List.pairwise_cons.mpr ⟨fun a ha => ?_, ih hrest⟩
            have hlt : b < c := lt_of_le_of_ne (hfirst c List.mem_cons_self) hsame
            rcases List.mem_cons.mp (mem_eraseReps.mp ha) with rfl | ha
            · exact hlt
            · exact lt_of_lt_of_le hlt ((List.pairwise_cons.mp hrest).1 a ha)

end Repetitions

section Texts

variable {texts others : List String}

theorem mem_sortedDistinct {text : String} :
  text ∈ sortedDistinct texts ↔ text ∈ texts
  := by
  rw [sortedDistinct, mem_eraseReps, List.mem_mergeSort]

theorem pairwise_sortedDistinct (texts : List String) :
  (sortedDistinct texts).Pairwise (· < ·)
  := by
  have hsorted := List.pairwise_mergeSort' (· ≤ ·) texts
  exact pairwise_eraseReps (α := String) hsorted

/-- It does not matter how often and in which order the texts are given. -/
theorem sortedDistinct_congr (h : ∀ text, text ∈ texts ↔ text ∈ others) :
  sortedDistinct texts = sortedDistinct others
  := by
  apply (pairwise_sortedDistinct texts).eq_of_mem_iff (pairwise_sortedDistinct others)
  intro text
  rw [mem_sortedDistinct, mem_sortedDistinct, h]

example : sortedDistinct ["b", "a", "b", "ab"] = ["a", "ab", "b"] := by cbv

end Texts

/-! ### Records of units -/

open Archive (Presents)

variable {mappings : List (String × String)} {c : StoreContents} {name : String}

/-- The names of the records on which a unit depends, each one once and in order. -/
def StoreContents.recordNames (c : StoreContents) : List String :=
  sortedDistinct c.referencedRecords

/-- The kinds of dependencies are compared as numbers by the library and as what they mean by its
client. -/
theorem UnitEntry.records_infos (u : UnitEntry) (place : String → String) :
  ((u.dependencies.map fun d => d.info place).filter fun d => d.kind = some .record).map
      DependencyInfo.name
    = u.records
  := by
  rw [List.filter_map, List.map_map, records]
  congr 1
  apply List.filter_congr
  intro d _
  rw [Function.comp_apply, Bool.eq_iff_iff, decide_eq_true_eq, beq_iff_eq, eq_comm (a := d.kind)]
  exact Vocabulary.ofCode?_eq_some

namespace Store

variable {store : Store Archive} (honest : store.library.Honest)

include honest

theorem recordsOfUnit_answers {u : UnitEntry} (hzero : '\x00' ∉ name.toList)
    (hu : c.unit? name = some u) :
  (store.recordsOfUnit name).Answers (Presents store.ref mappings c) (.ok u.records)
  := by
  have hread : (store.withUnit name UnitReader.dependencyInfos).Answers
      (Presents store.ref mappings c)
      (Text.checked name (Text.quoted name)
        ((c.openUnit name).map fun u => u.dependencies.map fun d => d.info (remap mappings))) := by
    apply withUnit_answers honest name
    intro r u a hhonest _ hshows
    exact UnitReader.dependencyInfos_eq hhonest hshows
  rw [Text.checked, if_neg hzero, StoreContents.openUnit, hu] at hread
  rw [← u.records_infos (remap mappings)]
  exact hread.bind fun dependencies => Access.answers_pure
    ((dependencies.filter fun d => d.kind = some .record).map DependencyInfo.name)

/-- The names are told if each unit can be opened by its name. -/
theorem referencedRecords_answers (hdistinct : c.unitNames.Nodup)
    (hzero : ∀ name ∈ c.unitNames, '\x00' ∉ name.toList) :
  store.referencedRecords.Answers (Presents store.ref mappings c)
    (.ok c.recordNames)
  := by
  let recordsOf (name : String) : List String := ((c.unit? name).map UnitEntry.records).getD []
  have hfound : ∀ u ∈ c.units, recordsOf u.name = u.records := by
    intro u hu
    simp only [recordsOf, StoreContents.unit?_of_distinct hdistinct hu, Option.map_some,
      Option.getD_some]
  have hnames : (store.unitNames true).Answers (Presents store.ref mappings c)
      (.ok c.sortedUnitNames) :=
    unitNames_answers honest true
  have hrecords : (c.sortedUnitNames.mapM store.recordsOfUnit).Answers
      (Presents store.ref mappings c) (.ok (c.sortedUnitNames.map recordsOf)) := by
    apply Access.answers_mapM_ok
    intro name hname
    rw [StoreContents.sortedUnitNames, List.mem_mergeSort] at hname
    obtain ⟨u, hu, rfl⟩ := List.mem_map.mp hname
    rw [hfound u hu]
    have hopens := StoreContents.unit?_of_distinct hdistinct hu
    exact recordsOfUnit_answers honest (hzero _ hname) hopens
  have hsame : c.recordNames = sortedDistinct (c.sortedUnitNames.map recordsOf).flatten := by
    apply sortedDistinct_congr
    intro name
    have hmember : name ∈ (c.sortedUnitNames.map recordsOf).flatten
        ↔ ∃ u ∈ c.units, name ∈ recordsOf u.name := by
      simp only [List.mem_flatten, List.mem_map, StoreContents.sortedUnitNames, List.mem_mergeSort,
        StoreContents.unitNames, exists_exists_and_eq_and]
    rw [StoreContents.mem_referencedRecords, hmember]
    apply exists_congr
    intro u
    apply and_congr_right
    intro hu
    rw [hfound u hu]
  rw [hsame]
  apply hnames.bind_ok
  apply hrecords.bind_ok
  exact Access.answers_pure _

end Store

end SymbolIndex
