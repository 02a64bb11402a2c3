import SymbolIndex.Contents.Basic

/-!
# References and order in a record

An occurrence refers to symbols by their places in its record, to those of its relations before its
own one. A record that holds every symbol to which it refers is whole. The occurrences are put in
the order of the source, by line and column, and those at one place stay as they are.
-/

namespace SymbolIndex

namespace RecordEntry

variable (r : RecordEntry)

/-! ### References -/

/-- The places of the symbols to which the occurrences refer, as they are looked at. -/
def references : List UInt64 :=
  r.occurrences.flatMap fun o => o.relations.map RelationEntry.symbol ++ [o.symbol]

/-- There is a symbol at the place. -/
def Holds (i : UInt64) : Prop := i.toNat < r.symbols.length

/-- There is every symbol to which the record refers. -/
def Whole : Prop := ∀ i ∈ r.references, r.Holds i

theorem missingSymbol?_eq :
  r.missingSymbol? = r.references.find? fun i => r.symbols.length ≤ i.toNat
  := by
  rw [references, List.find?_flatMap]
  rfl

/-- The symbol that is missed is the first one that is not there. -/
theorem missingSymbol?_eq_some {i : UInt64} :
  r.missingSymbol? = some i
    ↔ ¬ r.Holds i ∧ ∃ before rest, r.references = before ++ i :: rest ∧ ∀ j ∈ before, r.Holds j
  := by
  rw [missingSymbol?_eq, List.find?_eq_some_iff_append]
  simp [Holds]

theorem missingSymbol?_eq_none :
  r.missingSymbol? = none ↔ r.Whole
  := by
  rw [missingSymbol?_eq, List.find?_eq_none]
  simp [Whole, Holds]

variable {r}

theorem Whole.occurrence (h : r.Whole) {o : OccurrenceEntry} (ho : o ∈ r.occurrences) :
  r.Holds o.symbol ∧ ∀ e ∈ o.relations, r.Holds e.symbol
  := by
  constructor
  · apply h
    apply List.mem_flatMap.mpr
    exact ⟨o, ho, by simp⟩
  · intro e he
    apply h
    apply List.mem_flatMap.mpr
    refine ⟨o, ho, List.mem_append_left _ ?_⟩
    exact List.mem_map_of_mem he

end RecordEntry

/-! ### The order of the source -/

namespace OccurrenceEntry

/-- One occurrence comes before another one in the source, or is at the same place. -/
def Before (o o' : OccurrenceEntry) : Prop :=
  o.line < o'.line ∨ o.line = o'.line ∧ o.column ≤ o'.column

/-- The order by which the occurrences of a record are sorted. -/
def before (o o' : OccurrenceEntry) : Bool :=
  o.line < o'.line || (o.line == o'.line && o.column ≤ o'.column)

variable {a b c : OccurrenceEntry}

@[simp]
theorem before_eq_true :
  a.before b = true ↔ a.Before b
  := by
  simp [before, Before]

theorem before_trans (a b c : OccurrenceEntry) (hab : a.before b = true) (hbc : b.before c = true) :
  a.before c = true
  := by
  simp only [before_eq_true, Before] at hab hbc ⊢
  grind

theorem before_total (a b : OccurrenceEntry) :
  (a.before b || b.before a) = true
  := by
  simp only [Bool.or_eq_true, before_eq_true, Before]
  grind

/-- The occurrence is at the place. -/
def At (line column : UInt32) (o : OccurrenceEntry) : Prop := o.line = line ∧ o.column = column

instance (line column : UInt32) (o : OccurrenceEntry) : Decidable (o.At line column) :=
  inferInstanceAs (Decidable (_ ∧ _))

theorem At.before {line column : UInt32} (ha : a.At line column) (hb : b.At line column) :
  a.Before b
  := by
  right
  exact ⟨ha.1.trans hb.1.symm, UInt32.le_of_eq (ha.2.trans hb.2.symm)⟩

/-- The second list is the first one in the order of the source. The occurrences at one place are
in both lists in the same order. -/
structure Ordered (occurrences sorted : List OccurrenceEntry) : Prop where
  perm : sorted.Perm occurrences
  before : sorted.Pairwise Before
  stable : ∀ line column, sorted.filter (At line column) = occurrences.filter (At line column)

end OccurrenceEntry

namespace RecordEntry

open OccurrenceEntry (At before_trans before_total)

variable (r : RecordEntry)

theorem inSourceOrder_eq :
  r.inSourceOrder = r.occurrences.mergeSort OccurrenceEntry.before
  := rfl

theorem before_inSourceOrder :
  r.inSourceOrder.Pairwise OccurrenceEntry.Before
  := by
  rw [inSourceOrder_eq]
  apply (List.pairwise_mergeSort before_trans before_total r.occurrences).imp
  intro o o' h
  exact OccurrenceEntry.before_eq_true.mp h

theorem perm_inSourceOrder :
  r.inSourceOrder.Perm r.occurrences
  := List.mergeSort_perm _ _

/-- The occurrences at one place stay as they are in the record. -/
theorem filter_inSourceOrder (line column : UInt32) :
  r.inSourceOrder.filter (At line column) = r.occurrences.filter (At line column)
  := by
  have hkept : (r.occurrences.filter (At line column)).Sublist r.inSourceOrder := by
    apply List.sublist_mergeSort before_trans before_total _ List.filter_sublist
    apply List.pairwise_of_forall_mem_list
    intro o ho o' ho'
    have hat := of_decide_eq_true (List.mem_filter.mp ho).2
    have hat' := of_decide_eq_true (List.mem_filter.mp ho').2
    exact OccurrenceEntry.before_eq_true.mpr (hat.before hat')
  have hfiltered := hkept.filter (At line column)
  rw [List.filter_filter] at hfiltered
  simp only [Bool.and_self] at hfiltered
  symm
  apply hfiltered.eq_of_length
  exact (r.perm_inSourceOrder.filter _).length_eq.symm

theorem ordered_inSourceOrder :
  OccurrenceEntry.Ordered r.occurrences r.inSourceOrder
  := ⟨r.perm_inSourceOrder, r.before_inSourceOrder, r.filter_inSourceOrder⟩

end RecordEntry

end SymbolIndex
