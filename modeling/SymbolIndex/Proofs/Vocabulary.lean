import Mathlib.Data.List.Nodup
import SymbolIndex.Symbol.Kind
import SymbolIndex.Unit.Kind

/-!
# Numbers of a vocabulary

A vocabulary lists all of its values, and no two of them have one number. So a number is read as
the value that has it, and it is unknown if there is none.
-/

namespace SymbolIndex

namespace Vocabulary

/-- All values are listed, and they have different numbers. -/
class Lawful (α : Type) [Vocabulary α] : Prop where
  listed : ∀ a : α, a ∈ (all : List α)
  distinct : ((all : List α).map code).Nodup

variable {α : Type} [Vocabulary α] [Lawful α] {raw : UInt32} {a b : α}

/-- No two values have one number. -/
theorem code_inj (h : code a = code b) :
  a = b
  := List.inj_on_of_nodup_map Lawful.distinct (Lawful.listed a) (Lawful.listed b) h

/-- A number is read as the value that has it. -/
theorem ofCode?_eq_some :
  ofCode? raw = some a ↔ code a = raw
  := by
  rw [ofCode?]
  constructor
  · intro h
    simpa using List.find?_some h
  · rintro rfl
    cases hfound : (all : List α).find? fun b => code b == code a with
    | none =>
        rw [List.find?_eq_none] at hfound
        simpa using hfound a (Lawful.listed a)
    | some b =>
        have hcode : code b = code a := by simpa using List.find?_some hfound
        rw [code_inj hcode]

theorem ofCode?_eq_none :
  (ofCode? raw : Option α) = none ↔ ∀ a : α, code a ≠ raw
  := by
  constructor
  · intro h a hcode
    rw [ofCode?_eq_some.mpr hcode] at h
    cases h
  · intro h
    rw [Option.eq_none_iff_forall_ne_some]
    intro a ha
    exact h a (ofCode?_eq_some.mp ha)

/-- The value has the number, or it is the one for all numbers that are unknown. -/
def Reads (raw : UInt32) (other a : α) : Prop :=
  code a = raw ∨ (∀ b : α, code b ≠ raw) ∧ a = other

/-- An unknown number is read as the value that is given for such numbers. -/
theorem reads_getD (raw : UInt32) (other : α) :
  Reads raw other ((ofCode? raw).getD other)
  := by
  cases h : (ofCode? raw : Option α) with
  | none => exact .inr ⟨ofCode?_eq_none.mp h, rfl⟩
  | some a => exact .inl (ofCode?_eq_some.mp h)

end Vocabulary

open Vocabulary (Lawful)

instance : Lawful SymbolKind where
  listed a := by cases a <;> simp [Vocabulary.all]
  distinct := by decide

instance : Lawful SymbolSubKind where
  listed a := by cases a <;> simp [Vocabulary.all]
  distinct := by decide

instance : Lawful SymbolLanguage where
  listed a := by cases a <;> simp [Vocabulary.all]
  distinct := by decide

instance : Lawful DependencyKind where
  listed a := by cases a <;> simp [Vocabulary.all]
  distinct := by decide

instance : Lawful UnitEventKind where
  listed a := by cases a <;> simp [Vocabulary.all]
  distinct := by decide

end SymbolIndex
