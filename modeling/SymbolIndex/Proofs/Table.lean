import Mathlib.Algebra.BigOperators.Group.List.Basic
import Mathlib.Algebra.GroupWithZero.Nat
import SymbolIndex.Table

/-!
# Rolls of a table

A roll says of each object of a table what its reference is, and something about the object. The
references of a table are distinct as long as they have all been handed out by the table.
-/

namespace SymbolIndex

variable {α β : Type}

/-! ### Lists with references -/

/-- An entry is in its list once, beside the entries of other references. -/
theorem perm_of_find {l : List (Nat × α)} {ref : Nat} {e : Nat × α}
    (distinct : (l.map Prod.fst).Nodup) (h : l.find? (fun e => e.1 == ref) = some e) :
  l.Perm (e :: l.filter fun e => e.1 != ref)
  := by
  induction l with
  | nil => cases h
  | cons e' l ih =>
      rw [List.map_cons, List.nodup_cons] at distinct
      by_cases href : e'.1 = ref
      · have hothers : l.filter (fun e => e.1 != ref) = l := by
          rw [List.filter_eq_self]
          intro x hx
          rw [bne_iff_ne]
          rintro rfl
          apply distinct.1
          rw [href]
          apply List.mem_map_of_mem hx
        rw [List.find?_cons_of_pos (by simpa using href)] at h
        obtain rfl : e' = e := by simpa using h
        rw [List.filter_cons_of_neg (by simpa using href), hothers]
      · rw [List.find?_cons_of_neg (by simpa using href)] at h
        rw [List.filter_cons_of_pos (by simpa using href)]
        apply List.Perm.trans (List.Perm.cons e' (ih distinct.2 h))
        apply List.Perm.swap

namespace Table

variable (t : Table α) {ref : Nat} {a : α}

/-- The references of a table, with something about each object. -/
def roll (f : α → β) : List (Nat × β) := t.entries.map fun e => (e.1, f e.2)

/-- The references are distinct and have been handed out by the table. -/
structure Sound : Prop where
  fresh : ∀ e ∈ t.entries, e.1 < t.next
  distinct : (t.entries.map Prod.fst).Nodup

theorem find_roll (f : α → β) (ref : Nat) :
  (t.roll f).find? (fun e => e.1 == ref) = (t.get? ref).map fun a => (ref, f a)
  := by
  simp only [roll, List.find?_map, get?, Option.map_map]
  cases h : t.entries.find? ((fun e => e.1 == ref) ∘ fun e => (e.1, f e.2)) with
  | none =>
      have h' : t.entries.find? (fun e => e.1 == ref) = none := h
      rw [h']
      rfl
  | some e =>
      have h' : t.entries.find? (fun e => e.1 == ref) = some e := h
      have href : e.1 = ref := by simpa using List.find?_some h'
      rw [h', ← href]
      rfl

@[simp]
theorem roll_insert (f : α → β) (a : α) :
  (t.insert a).2.roll f = t.roll f ++ [(t.next, f a)]
  := by
  simp [roll, insert]

@[simp]
theorem next_insert (a : α) :
  (t.insert a).2.next = t.next + 1
  := rfl

@[simp]
theorem roll_erase (f : α → β) (ref : Nat) :
  (t.erase ref).roll f = (t.roll f).filter fun e => e.1 != ref
  := by
  simp [roll, erase, List.filter_map, Function.comp_def]

@[simp]
theorem next_erase (ref : Nat) :
  (t.erase ref).next = t.next
  := rfl

@[simp]
theorem next_modify (ref : Nat) (g : α → α) :
  (t.modify ref g).next = t.next
  := rfl

variable {t}

/-- What the roll shows of the references is enough. -/
theorem sound_of_roll {f : α → β} (fresh : ∀ e ∈ t.roll f, e.1 < t.next)
    (distinct : ((t.roll f).map Prod.fst).Nodup) :
  t.Sound
  := by
  have hfst : (t.roll f).map Prod.fst = t.entries.map Prod.fst := by
    simp [roll]
  constructor
  · intro e he
    exact fresh (e.1, f e.2) (List.mem_map_of_mem (f := fun e => (e.1, f e.2)) he)
  · rw [← hfst]
    exact distinct

theorem get?_mem (h : t.get? ref = some a) :
  (ref, a) ∈ t.entries
  := by
  obtain ⟨e, he, rfl⟩ := Option.map_eq_some_iff.mp h
  have href : e.1 = ref := by simpa using List.find?_some he
  rw [← href]
  apply List.mem_of_find?_eq_some he

/-- In a table with distinct references, a reference has one object. -/
theorem Sound.get?_of_mem (ht : t.Sound) (h : (ref, a) ∈ t.entries) :
  t.get? ref = some a
  := by
  cases hfind : t.entries.find? (fun e => e.1 == ref) with
  | none =>
      have hnone := List.find?_eq_none.mp hfind (ref, a) h
      simp at hnone
  | some e =>
      have hperm := perm_of_find ht.distinct hfind
      have hmem := hperm.mem_iff.mp h
      simp only [List.mem_cons, List.mem_filter, bne_self_eq_false, Bool.false_eq_true, and_false,
        or_false] at hmem
      rw [get?, hfind, ← hmem]
      rfl

/-- A new object is found under its reference. -/
theorem Sound.get?_insert (ht : t.Sound) (a : α) :
  (t.insert a).2.get? t.next = some a
  := by
  have hbefore : t.entries.find? (fun e => e.1 == t.next) = none := by
    rw [List.find?_eq_none]
    intro e he
    have hfresh := ht.fresh e he
    simpa using Nat.ne_of_lt hfresh
  simp [get?, insert, hbefore]

/-- An object that is found is found among more objects, too. -/
theorem get?_insert_of_some (h : t.get? ref = some a) (b : α) :
  (t.insert b).2.get? ref = some a
  := by
  obtain ⟨e, he, rfl⟩ := Option.map_eq_some_iff.mp h
  rw [get?, insert, List.find?_append, he]
  rfl

/-- What is found among more objects has been there, or is the new one. -/
theorem found_insert {b : α} (h : (t.insert b).2.get? ref = some a) :
  t.get? ref = some a ∨ ref = t.next ∧ a = b
  := by
  cases hfind : t.get? ref with
  | some c =>
      left
      rw [get?_insert_of_some hfind] at h
      exact h
  | none =>
      right
      have hnone : t.entries.find? (fun e => e.1 == ref) = none := by simpa [get?] using hfind
      obtain ⟨e, he, rfl⟩ := Option.map_eq_some_iff.mp h
      rw [insert, List.find?_append, hnone, Option.none_or] at he
      obtain rfl := List.mem_singleton.mp (List.mem_of_find?_eq_some he)
      have href : t.next = ref := by simpa using List.find?_some he
      exact ⟨href.symm, rfl⟩

theorem get?_erase (ref ref' : Nat) :
  (t.erase ref').get? ref = if ref = ref' then none else t.get? ref
  := by
  simp only [get?, erase, List.find?_filter]
  split
  case isTrue href =>
      rw [Option.map_eq_none_iff, List.find?_eq_none]
      intro e _
      simp [href]
  case isFalse href =>
      congr 2
      funext e
      by_cases he : e.1 = ref <;> simp [he, href]

theorem get?_modify (ref ref' : Nat) (g : α → α) :
  (t.modify ref' g).get? ref = if ref = ref' then (t.get? ref).map g else t.get? ref
  := by
  have hsame : (fun e : Nat × α => e.1 == ref) ∘ (fun e => if e.1 = ref' then (ref', g e.2) else e)
      = fun e => e.1 == ref := by
    funext e
    by_cases he : e.1 = ref' <;> simp [he]
  simp only [get?, modify, List.find?_map, hsame]
  cases hfind : t.entries.find? (fun e => e.1 == ref) with
  | none => simp
  | some e =>
      have href : e.1 = ref := by simpa using List.find?_some hfind
      by_cases he : ref = ref' <;> simp [href, he]

/-- An object stays where it is when objects are changed. -/
theorem found_modify (h : ∃ a, t.get? ref = some a) (ref' : Nat) (g : α → α) :
  ∃ a, (t.modify ref' g).get? ref = some a
  := by
  obtain ⟨a, ha⟩ := h
  rw [get?_modify, ha]
  split
  · exact ⟨g a, rfl⟩
  · exact ⟨a, rfl⟩

/-- Changing one object in a way that does not show on the roll. -/
theorem Sound.roll_modify (ht : t.Sound) {f : α → β} {g : α → α}
    (h : ∀ a, t.get? ref = some a → f (g a) = f a) :
  (t.modify ref g).roll f = t.roll f
  := by
  rw [roll, roll, modify, List.map_map]
  apply List.map_congr_left
  rintro ⟨r, a⟩ he
  by_cases href : r = ref
  · subst href
    simp [h a (ht.get?_of_mem he)]
  · simp [href]

theorem Sound.insert (ht : t.Sound) (a : α) :
  (t.insert a).2.Sound
  := by
  constructor
  · intro e he
    simp only [Table.insert, List.mem_append, List.mem_singleton] at he ⊢
    rcases he with he | rfl
    · have := ht.fresh e he
      omega
    · simp
  · simp only [Table.insert, List.map_append, List.map_cons, List.map_nil]
    rw [List.nodup_append]
    refine ⟨ht.distinct, by simp, ?_⟩
    intro r hr r' hr'
    obtain ⟨e, he, rfl⟩ := List.mem_map.mp hr
    obtain rfl : r' = t.next := by simpa using hr'
    have := ht.fresh e he
    omega

theorem Sound.erase (ht : t.Sound) (ref : Nat) :
  (t.erase ref).Sound
  := by
  constructor
  · intro e he
    exact ht.fresh e (List.mem_of_mem_filter he)
  · apply List.Nodup.sublist _ ht.distinct
    apply List.Sublist.map
    apply List.filter_sublist

theorem Sound.modify (ht : t.Sound) (ref : Nat) (g : α → α) :
  (t.modify ref g).Sound
  := by
  have hfst : (t.modify ref g).entries.map Prod.fst = t.entries.map Prod.fst := by
    rw [Table.modify, List.map_map]
    apply List.map_congr_left
    intro e _
    by_cases href : e.1 = ref <;> simp [href]
  constructor
  · intro e he
    have hmem := List.mem_map_of_mem (f := Prod.fst) he
    rw [hfst] at hmem
    obtain ⟨e', he', href⟩ := List.mem_map.mp hmem
    rw [← href]
    exact ht.fresh e' he'
  · rw [hfst]
    exact ht.distinct

theorem empty_sound :
  ({} : Table α).Sound
  := ⟨by simp, by simp⟩

/-! ### Sums over the objects -/

variable (t) in
/-- The sum of a number over the objects. -/
def total (f : α → Nat) : Nat := (t.values.map f).sum

@[simp]
theorem total_insert (f : α → Nat) (a : α) :
  (t.insert a).2.total f = t.total f + f a
  := by
  simp [total, values, insert]

/-- A sum that counts objects counts entries of the roll. -/
theorem total_of_indicator {f : α → Nat} {g : α → β} {p : Nat × β → Bool}
    (h : ∀ e ∈ t.entries, f e.2 = (p (e.1, g e.2)).toNat) :
  t.total f = (t.roll g).countP p
  := by
  rw [total, values, roll, List.map_map, List.countP_map]
  revert h
  induction t.entries with
  | nil => intro _; rfl
  | cons e l ih =>
      intro h
      have hl := ih fun e' he' => h e' (List.mem_cons_of_mem e he')
      have he := h e List.mem_cons_self
      rw [List.map_cons, List.sum_cons, hl, List.countP_cons, Nat.add_comm]
      cases hp : p (e.1, g e.2) <;> simp [he, hp]

/-- The object of a reference counts beside the others. -/
theorem Sound.total_erase (ht : t.Sound) (f : α → Nat) (h : t.get? ref = some a) :
  t.total f = f a + (t.erase ref).total f
  := by
  obtain ⟨e, he, rfl⟩ := Option.map_eq_some_iff.mp h
  have hperm := ((perm_of_find ht.distinct he).map Prod.snd).map f
  simpa [total, values, Table.erase] using hperm.sum_eq

theorem erase_modify (g : α → α) :
  (t.modify ref g).erase ref = t.erase ref
  := by
  have hentries : ∀ l : List (Nat × α),
      (l.map fun e => if e.1 = ref then (ref, g e.2) else e).filter (fun e => e.1 != ref)
        = l.filter fun e => e.1 != ref := by
    intro l
    induction l with
    | nil => rfl
    | cons e l ih =>
        by_cases href : e.1 = ref
        · simp [href, ih]
        · simp [href, ih]
  simp only [Table.modify, Table.erase, hentries]

/-- Changing one object changes the sum by what the object counts. -/
theorem Sound.total_modify (ht : t.Sound) (f : α → Nat) (g : α → α) (h : t.get? ref = some a) :
  (t.modify ref g).total f + f a = t.total f + f (g a)
  := by
  have hbefore := ht.total_erase f h
  have hmodified : (t.modify ref g).get? ref = some (g a) := by
    simp [get?_modify, h]
  have hafter := (ht.modify ref g).total_erase f hmodified
  rw [erase_modify] at hafter
  omega

end Table

end SymbolIndex
