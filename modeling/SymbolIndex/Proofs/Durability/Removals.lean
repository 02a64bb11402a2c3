import Mathlib.Tactic.Tauto
import SymbolIndex.Proofs.Durability.Requests

/-!
# What is left of the contents of a store

A client discards units and records by their names, and purges, in any order and as often as it
likes. What is left can be told from the names and from whether it has purged at all, if it does
so in the end: a purge in between removes nothing that the last one would leave, since less and
less is referred to.
-/

namespace SymbolIndex

variable {c : StoreContents} {ds ds' : List StoreDeed}

/-! ### Contents after operations -/

/-- The contents after an operation on their store. -/
def StoreContents.after (c : StoreContents) (deed : StoreDeed) : StoreContents :=
  deed.request?.elim c c.change

/-- The contents after operations on their store, first one first. -/
def StoreContents.afterAll (c : StoreContents) (ds : List StoreDeed) : StoreContents :=
  ds.foldl StoreContents.after c

namespace StoreDeed

/-- The units of a name are discarded. -/
def removesUnit (name : String) : StoreDeed → Bool
  | discardUnit unit => unit == name && !decide ('\x00' ∈ unit.toList)
  | _ => false

/-- The records of a name are discarded. -/
def removesRecord (name : String) : StoreDeed → Bool
  | discardRecord record => record == name && !decide ('\x00' ∈ record.toList)
  | _ => false

def purges : StoreDeed → Bool
  | purge => true
  | _ => false

theorem purges_eq_true {deed : StoreDeed} :
  deed.purges = true ↔ deed = .purge
  := by
  cases deed <;> simp [purges]

theorem any_purges (ds : List StoreDeed) :
  ds.any purges = true ↔ .purge ∈ ds
  := by
  simp [purges_eq_true]

/-- Everything is purged in the end, or nothing is. -/
def Tidy (ds : List StoreDeed) : Prop := .purge ∉ ds ∨ ds.getLast? = some .purge

end StoreDeed

/-- The unit depends on a record of the given name. -/
def UnitEntry.usesRecord (u : UnitEntry) (name : String) : Bool :=
  u.dependencies.any fun d => d.kind == Vocabulary.code DependencyKind.record && d.name == name

namespace StoreContents

/-- The units whose names are not discarded. -/
def unitsLeft (c : StoreContents) (ds : List StoreDeed) : List UnitEntry :=
  c.units.filter fun u => !ds.any (·.removesUnit u.name)

/-- What is left: the units and the records whose names are not discarded, in their order. If there
is a purge, a record is left only if a unit that is left depends on it. -/
def left (c : StoreContents) (ds : List StoreDeed) : StoreContents :=
  { c with
    units := c.unitsLeft ds
    records := c.records.filter fun r => !ds.any (·.removesRecord r.name)
      && (!ds.any StoreDeed.purges || (c.unitsLeft ds).any (·.usesRecord r.name)) }

/-- Nothing is discarded but by its name. -/
def without (c : StoreContents) (ds : List StoreDeed) : StoreContents :=
  { c with
    units := c.unitsLeft ds
    records := c.records.filter fun r => !ds.any (·.removesRecord r.name) }

theorem contains_referencedRecords (c : StoreContents) (name : String) :
  c.referencedRecords.contains name = c.units.any (·.usesRecord name)
  := by
  rw [Bool.eq_iff_iff, List.contains_iff_mem, mem_referencedRecords]
  simp only [UnitEntry.mem_records, UnitEntry.usesRecord, List.any_eq_true, Bool.and_eq_true,
    beq_iff_eq]

theorem purge_eq (c : StoreContents) :
  c.purge = { c with records := c.records.filter fun r => c.units.any (·.usesRecord r.name) }
  := by
  simp only [purge, contains_referencedRecords]

/-! ### One operation and more -/

/-- What is discarded is discarded by its name. -/
theorem after_eq_of_not_purges (c : StoreContents) {deed : StoreDeed}
    (h : deed.purges = false) :
  c.after deed
    = { c with
        units := c.units.filter fun u => !deed.removesUnit u.name
        records := c.records.filter fun r => !deed.removesRecord r.name }
  := by
  have hkeep : ∀ {α : Type} (l : List α), l.filter (fun _ => true) = l := fun l => by simp
  cases deed with
  | purge => cases h
  | discardUnit unit =>
      by_cases hzero : '\x00' ∈ unit.toList
      · simp [after, StoreDeed.request?, change, StoreDeed.removesUnit, StoreDeed.removesRecord,
          hzero]
      · simp [after, StoreDeed.request?, change, StoreDeed.removesUnit, StoreDeed.removesRecord,
          hzero, discardUnit, bne, BEq.comm]
  | discardRecord record =>
      by_cases hzero : '\x00' ∈ record.toList
      · simp [after, StoreDeed.request?, change, StoreDeed.removesUnit, StoreDeed.removesRecord,
          hzero]
      · simp [after, StoreDeed.request?, change, StoreDeed.removesUnit, StoreDeed.removesRecord,
          hzero, discardRecord, bne, BEq.comm]
  | _ =>
      simp only [StoreDeed.removesUnit, StoreDeed.removesRecord, Bool.not_false, hkeep]
      rfl

theorem without_nil (c : StoreContents) :
  c.without [] = c
  := by
  simp [without, unitsLeft]

/-- What is discarded first and what is discarded then is all that is discarded. -/
theorem without_after (c : StoreContents) {deed : StoreDeed} (h : deed.purges = false)
    (ds : List StoreDeed) :
  (c.after deed).without ds = c.without (deed :: ds)
  := by
  simp only [after_eq_of_not_purges c h, without, unitsLeft, List.filter_filter, List.any_cons,
    Bool.not_or, Bool.and_comm]

/-- A purge before others are discarded removes nothing that a purge after it would leave. -/
theorem purge_without_purge (c : StoreContents) (ds : List StoreDeed) :
  (c.purge.without ds).purge = (c.without ds).purge
  := by
  have hfewer : ∀ name, (c.unitsLeft ds).any (·.usesRecord name) = true →
      c.units.any (·.usesRecord name) = true := by
    intro name hused
    obtain ⟨u, hu, huses⟩ := List.any_eq_true.mp hused
    exact List.any_eq_true.mpr ⟨u, List.mem_of_mem_filter hu, huses⟩
  simp only [purge_eq, without, unitsLeft, List.filter_filter, StoreContents.mk.injEq, true_and,
    and_true]
  apply List.filter_congr
  intro r _
  cases hused : (c.unitsLeft ds).any (·.usesRecord r.name) with
  | false => rw [unitsLeft] at hused; simp only [hused, Bool.false_and]
  | true =>
      have hbefore := hfewer r.name hused
      rw [hbefore]
      simp only [Bool.and_true]

/-- When everything is purged in the end, the purges before have removed nothing more. -/
theorem purge_afterAll (c : StoreContents) (ds : List StoreDeed) :
  (c.afterAll ds).purge = (c.without ds).purge
  := by
  induction ds generalizing c with
  | nil => rw [without_nil]; rfl
  | cons deed ds ih =>
      have hstep : (c.afterAll (deed :: ds)).purge = ((c.after deed).without ds).purge := ih _
      rw [hstep]
      cases hpurges : deed.purges with
      | false => rw [without_after c hpurges]
      | true =>
          obtain rfl := StoreDeed.purges_eq_true.mp hpurges
          exact purge_without_purge c ds

theorem afterAll_of_not_purges (c : StoreContents) (h : ds.any StoreDeed.purges = false) :
  c.afterAll ds = c.without ds
  := by
  induction ds generalizing c with
  | nil => rw [without_nil]; rfl
  | cons deed ds ih =>
      obtain ⟨hdeed, hds⟩ := Bool.or_eq_false_iff.mp (List.any_cons ▸ h)
      rw [← without_after c hdeed]
      exact ih _ hds

/-- The purge at the end leaves out the records that no unit which is left depends on. -/
theorem afterAll_eq_left (c : StoreContents) (h : StoreDeed.Tidy ds) :
  c.afterAll ds = c.left ds
  := by
  rcases h with hnever | hlast
  · have hpurges : ds.any StoreDeed.purges = false := by
      rw [Bool.eq_false_iff, ne_eq, StoreDeed.any_purges]
      exact hnever
    rw [afterAll_of_not_purges c hpurges]
    simp only [without, left, hpurges, Bool.not_false, Bool.true_or, Bool.and_true]
  · obtain ⟨before, rfl⟩ := List.getLast?_eq_some_iff.mp hlast
    have hpurges : (before ++ [StoreDeed.purge]).any StoreDeed.purges = true :=
      (StoreDeed.any_purges _).mpr (List.mem_append_right _ List.mem_cons_self)
    have hpurged : c.afterAll (before ++ [.purge]) = (c.without before).purge := by
      rw [← purge_afterAll, afterAll, afterAll, List.foldl_append]
      rfl
    rw [hpurged, purge_eq]
    simp [without, left, unitsLeft, StoreDeed.removesUnit, StoreDeed.removesRecord, hpurges,
      List.filter_filter, Bool.and_comm]

/-- What is left depends on what is discarded and on whether anything is purged, and neither on the
order nor on how often. -/
theorem left_congr (c : StoreContents) (h : ∀ deed, deed ∈ ds ↔ deed ∈ ds') :
  c.left ds = c.left ds'
  := by
  have hany : ∀ p : StoreDeed → Bool, ds.any p = ds'.any p := by
    intro p
    rw [Bool.eq_iff_iff, List.any_eq_true, List.any_eq_true]
    simp only [h]
  simp only [left, unitsLeft, hany]

/-- What is purged in between is purged in the end anyway. -/
theorem afterAll_purge_between (c : StoreContents) (ds ds' : List StoreDeed) :
  c.afterAll (ds ++ .purge :: ds' ++ [.purge]) = c.afterAll (ds ++ ds' ++ [.purge])
  := by
  have htidy : ∀ before : List StoreDeed, StoreDeed.Tidy (before ++ [.purge]) :=
    fun before => .inr List.getLast?_concat
  rw [afterAll_eq_left c (htidy _), afterAll_eq_left c (htidy _)]
  apply left_congr
  intro deed
  simp only [List.mem_append, List.mem_cons, List.not_mem_nil, or_false]
  tauto

end StoreContents

end SymbolIndex
