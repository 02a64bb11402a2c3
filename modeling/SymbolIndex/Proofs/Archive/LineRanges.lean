import SymbolIndex.Proofs.Archive.Deliveries
import SymbolIndex.Proofs.Contents.Records

/-!
# Occurrences on some lines

The occurrences of a record are handed out by line and column. Those on a number of lines are the
ones whose line is among these lines, as whole numbers, and is not the last line of all. So lines
that are put together from two parts have the occurrences of the one and then those of the other.
-/

namespace SymbolIndex

variable {α : Type}

/-! ### Parts of a sorted list -/

/-- What is in one of two parts of a list is what is in the first part and then what is in the
second, if nothing of the second comes before anything of the first. -/
theorem filter_or {p q : α → Bool} {items : List α} (hapart : ∀ a, p a = true → q a = false)
    (horder : items.Pairwise fun a b => q a = true → p b = false) :
  items.filter (fun a => p a || q a) = items.filter p ++ items.filter q
  := by
  induction items with
  | nil => rfl
  | cons a items ih =>
      obtain ⟨hfirst, hrest⟩ := List.pairwise_cons.mp horder
      have hparts := ih hrest
      cases hp : p a with
      | true => simp [hp, hapart a hp, hparts]
      | false =>
          cases hq : q a with
          | false => simp [hp, hq, hparts]
          | true =>
              have hnone : items.filter p = [] := by
                rw [List.filter_eq_nil_iff]
                intro b hb
                simp [hfirst b hb hq]
              rw [hnone, List.nil_append] at hparts
              simp [hp, hq, hnone, hparts]

namespace OccurrenceView

/-- One occurrence comes before another one in the source, or is at the same place. -/
def Before (o o' : OccurrenceView) : Prop :=
  o.line < o'.line ∨ o.line = o'.line ∧ o.column ≤ o'.column

/-- The line is one of a number of lines from a line on. -/
def OnLines (start count : Nat) (o : OccurrenceView) : Prop :=
  start ≤ o.line.toNat ∧ o.line.toNat < start + count

instance (start count : Nat) (o : OccurrenceView) : Decidable (o.OnLines start count) :=
  inferInstanceAs (Decidable (_ ∧ _))

end OccurrenceView

/-- The lines end before the last line of all, even if that is asked for. -/
theorem Selection.selects_lines (start count : UInt32) :
  (Selection.lines start count).selects
    = fun o => decide (o.OnLines start.toNat count.toNat ∧ o.line ≠ 0xFFFFFFFF)
  := by
  funext o
  have hlast : o.line = 0xFFFFFFFF ↔ o.line.toNat = UInt32.size - 1 := UInt32.toNat_inj.symm
  rw [selects, onLines, Bool.eq_iff_iff]
  simp only [Bool.and_eq_true, decide_eq_true_eq, UInt32.le_iff_toNat_le, Nat.lt_min, ne_eq, hlast,
    OccurrenceView.OnLines]
  have hline := o.line.toNat_lt_size
  omega

/-- The occurrences of a record are handed out in the order of the source. -/
theorem RecordEntry.sorted_occurrenceViews (entry : RecordEntry) (reader : RecordRef) :
  (entry.occurrenceViews reader).Pairwise OccurrenceView.Before
  := by
  apply entry.before_inSourceOrder.filterMap
  intro o o' hbefore v hv v' hv'
  obtain ⟨_, -, rfl⟩ := Option.map_eq_some_iff.mp hv
  obtain ⟨_, -, rfl⟩ := Option.map_eq_some_iff.mp hv'
  exact hbefore

/-- The second part of some lines begins where the first one ends. If there is nothing in it, this
may be after the last line of all. -/
theorem toNat_second_part {start a b : UInt32}
    (hroom : start.toNat + (a.toNat + b.toNat) ≤ UInt32.size) :
  b.toNat = 0 ∨ (start + a).toNat = start.toNat + a.toNat
  := by
  rw [UInt32.size] at hroom
  rw [UInt32.toNat_add]
  omega

namespace OccurrenceView

variable {start a b : UInt32} (hroom : start.toNat + (a.toNat + b.toNat) ≤ UInt32.size)

include hroom

theorem onLines_iff (o : OccurrenceView) :
  o.OnLines start.toNat (a.toNat + b.toNat)
    ↔ o.OnLines start.toNat a.toNat ∨ o.OnLines (start + a).toNat b.toNat
  := by
  have hsecond := toNat_second_part hroom
  rw [OnLines, OnLines, OnLines]
  omega

theorem line_lt_of_parts {o o' : OccurrenceView} (ho : o.OnLines start.toNat a.toNat)
    (ho' : o'.OnLines (start + a).toNat b.toNat) :
  o.line < o'.line
  := by
  have hsecond := toNat_second_part hroom
  rw [OnLines] at ho ho'
  rw [UInt32.lt_iff_toNat_lt]
  omega

end OccurrenceView

/-! ### Line ranges -/

namespace RecordReader

variable {r : RecordReader Archive} {entry : RecordEntry} {s : Scene}

theorem OpenIn.delivers_lines (h : r.OpenIn entry s) (l : Library Archive) (start count : UInt32) :
  (Handout.occurrencesOnLines r start count).Delivers l s.2
    ((entry.occurrenceViews r.ref).filter fun o =>
      o.OnLines start.toNat count.toNat ∧ o.line ≠ 0xFFFFFFFF)
  := by
  apply Handout.delivers
  rw [Handout.items, h.hasRecord.2.occurrencesOf_eq, RecordEntry.selected, Selection.selects_lines]

/-- The occurrences on some lines of an open record are those of its occurrences that are on these
lines, but for the last line of all, and in the same order. Those on lines that are put together
from two parts are those on the one part and then those on the other. -/
theorem occurrencesOnLines_openIn (h : r.OpenIn entry s) (l : Library Archive) :
  let all := entry.occurrenceViews r.ref
  let part (start count : UInt32) :=
    all.filter fun o => o.OnLines start.toNat count.toNat ∧ o.line ≠ 0xFFFFFFFF
  (Handout.occurrences r).Delivers l s.2 all
    ∧ all.Pairwise OccurrenceView.Before
    ∧ (∀ start count, (Handout.occurrencesOnLines r start count).Delivers l s.2 (part start count))
    ∧ ∀ start a b count : UInt32, count.toNat = a.toNat + b.toNat →
        start.toNat + count.toNat ≤ UInt32.size →
      part start count = part start a ++ part (start + a) b
  := by
  intro all part
  have hsorted : all.Pairwise OccurrenceView.Before := entry.sorted_occurrenceViews r.ref
  refine ⟨h.delivers_all l, hsorted, h.delivers_lines l, fun start a b count hcount hroom => ?_⟩
  rw [hcount] at hroom
  simp only [part, hcount, OccurrenceView.onLines_iff hroom, or_and_right, Bool.decide_or]
  apply filter_or
  · intro o ho
    simp only [decide_eq_true_eq, decide_eq_false_iff_not] at ho ⊢
    intro ho'
    exact UInt32.lt_irrefl _ (OccurrenceView.line_lt_of_parts hroom ho.1 ho'.1)
  · -- What is on the second part does not come before what is on the first one.
    apply hsorted.imp
    intro o o' hbefore ho
    simp only [decide_eq_true_eq, decide_eq_false_iff_not] at ho ⊢
    intro ho'
    have hlt := OccurrenceView.line_lt_of_parts hroom ho'.1 ho.1
    rcases hbefore with hline | ⟨hline, -⟩
    · exact UInt32.lt_asymm hlt hline
    · exact UInt32.ne_of_lt hlt hline.symm

/-- Of three occurrences two are on the lines 3 to 6, one before line 5 and one after it. -/
theorem occurrencesOnLines_openIn_parts :
  let entry : RecordEntry :=
    { name := "r", symbols := [{}]
      occurrences := [{ line := 7 }, { line := 5, column := 2 }, { line := 3 }] }
  ∃ (r : RecordReader Archive) (s : Scene), r.OpenIn entry s ∧ ∃ u v w,
    entry.occurrenceViews r.ref = [u, v, w]
      ∧ ∀ l, (Handout.occurrencesOnLines r 3 4).Delivers l s.2 ([u] ++ [v])
  := by
  intro entry
  have hzero : '\x00' ∉ entry.name.toList := by decide
  obtain ⟨r, s, h⟩ := exists_openIn hzero rfl
  have horder : entry.inSourceOrder
      = [{ line := 3 }, { line := 5, column := 2 }, { line := 7 }] := by
    simp [RecordEntry.inSourceOrder, List.mergeSort, List.MergeSort.Internal.splitInTwo, entry]
  refine ⟨r, s, h, _, _, _, by rw [RecordEntry.occurrenceViews, horder]; rfl, fun l => ?_⟩
  obtain ⟨-, -, hlines, hparts⟩ := occurrencesOnLines_openIn h l
  have hdelivers := hlines 3 4
  rw [hparts 3 2 2 4 rfl (by decide), RecordEntry.occurrenceViews, horder] at hdelivers
  exact hdelivers

/-- The last line of all is asked for, and the occurrence on it is not handed out. -/
theorem lastLine_withheld :
  let entry : RecordEntry :=
    { name := "r.c", symbols := [{ name := "s" }]
      occurrences := [{ line := 0xFFFFFFFF, column := 1 }] }
  ∃ (r : RecordReader Archive) (s : Scene), r.OpenIn entry s ∧ ∃ o,
    o.OnLines (0xFFFFFFFF : UInt32).toNat (1 : UInt32).toNat
      ∧ ∀ l, (Handout.occurrences r).Delivers l s.2 [o]
        ∧ (Handout.occurrencesOnLines r 0xFFFFFFFF 1).Delivers l s.2 []
  := by
  intro entry
  have hzero : '\x00' ∉ entry.name.toList := by decide
  obtain ⟨r, s, h⟩ := exists_openIn hzero rfl
  have horder : entry.inSourceOrder = [{ line := 0xFFFFFFFF, column := 1 }] :=
    List.mergeSort_singleton _
  obtain ⟨o, hall, hline⟩ : ∃ o, entry.occurrenceViews r.ref = [o] ∧ o.line = 0xFFFFFFFF :=
    ⟨_, by rw [RecordEntry.occurrenceViews, horder]; rfl, rfl⟩
  refine ⟨r, s, h, o, ?_, fun l => ⟨hall ▸ h.delivers_all l, ?_⟩⟩
  · rw [OccurrenceView.OnLines, hline]
    decide
  · have hlines := h.delivers_lines l 0xFFFFFFFF 1
    rw [hall, List.filter_singleton] at hlines
    simpa [hline] using hlines

end RecordReader

end SymbolIndex
