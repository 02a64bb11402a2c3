import Mathlib.Order.Compare
import Mathlib.Data.Int.Order.Basic

/-!
# Numbers of two places

A pair of integers is one number if the second one of the pair stays below a base: the first one
times the base, and the second one added. Pairs are then in the order of their numbers. Integers of
a fixed width are in the order of the integers that they denote.
-/

namespace SymbolIndex

theorem compare_toInt (a b : Int64) :
  compare a b = compare a.toInt b.toInt
  := by
  simp only [compare, compareOfLessAndEq, Int64.lt_iff_toInt_lt, ← Int64.toInt_inj]

theorem compare_toNat (a b : UInt32) :
  compare a b = compare (a.toNat : Int) b.toNat
  := by
  simp only [compare, compareOfLessAndEq, UInt32.lt_iff_toNat_lt, ← UInt32.toNat_inj,
    Int.ofNat_lt, Int.ofNat_inj]

/-- The digit at a place of the given base. -/
def IsDigit (base n : Int) : Prop := 0 ≤ n ∧ n < base

variable {base q q' r r' : Int}

theorem places_lt (hr : IsDigit base r) (hr' : IsDigit base r') (h : q < q') :
  q * base + r < q' * base + r'
  := by
  have hbase : 0 ≤ base := by
    have hpositive := hr.1.trans_lt hr.2
    omega
  calc q * base + r
    _ < q * base + base := Int.add_lt_add_left hr.2 _
    _ = (q + 1) * base := by rw [Int.add_mul, Int.one_mul]
    _ ≤ q' * base := Int.mul_le_mul_of_nonneg_right h hbase
    _ ≤ q' * base + r' := Int.le_add_of_nonneg_right hr'.1

/-- Numbers of two places are compared place by place. -/
theorem compare_places (hr : IsDigit base r) (hr' : IsDigit base r') :
  compare (q * base + r) (q' * base + r') = (compare q q').then (compare r r')
  := by
  rcases lt_trichotomy q q' with h | rfl | h
  · rw [compare_lt_iff_lt.mpr h]
    exact compare_lt_iff_lt.mpr (places_lt hr hr' h)
  · rw [compare_eq_iff_eq.mpr rfl]
    simp only [compare, compareOfLessAndEq, Int.add_lt_add_iff_left, Int.add_right_inj]
    rfl
  · rw [compare_gt_iff_gt.mpr h]
    exact compare_gt_iff_gt.mpr (places_lt hr' hr h)

end SymbolIndex
