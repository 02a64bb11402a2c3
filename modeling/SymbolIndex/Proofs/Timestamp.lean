import Mathlib.Algebra.Group.Int.Defs
import SymbolIndex.Proofs.Places
import SymbolIndex.Timestamp

/-!
# Timestamps denote instants

There is an instant for every number of nanoseconds since the epoch whose whole seconds have 64
bits. To go a span forth or back is to add or to subtract its nanoseconds, and leads nowhere only if
there is no such instant. So a timestamp denotes the instant at its seconds and nanoseconds, if
there is one.
-/

namespace SymbolIndex

/-- The nanoseconds of a span. -/
def Span.length (d : Span) : Int := d.seconds.toNat * 1000000000 + d.nanoseconds

theorem Span.length_ofSeconds (n : UInt64) :
  (ofSeconds n).length = n.toNat * 1000000000
  := Int.add_zero _

theorem Span.length_ofNanoseconds (n : UInt64) :
  (ofNanoseconds n).length = n.toNat
  := by
  have hsecond : (1000000000 : UInt64).toNat = 1000000000 := rfl
  simp only [length, ofNanoseconds, UInt64.toNat_div, hsecond]
  omega

namespace Instant

variable {t u : Instant} {d : Span} {n : Int}

theorem isDigit_nanoseconds (t : Instant) :
  IsDigit 1000000000 t.nanoseconds
  := ⟨Int.natCast_nonneg _, Int.ofNat_lt.mpr t.nanoseconds_lt⟩

/-- The order of instants is the order of their nanoseconds since the epoch. -/
theorem order_eq_compare (t u : Instant) :
  t.order u = compare t.sinceEpoch u.sinceEpoch
  := by
  have hnanoseconds : compare t.nanoseconds u.nanoseconds
      = compare (t.nanoseconds : Int) u.nanoseconds := by
    simp only [compare, compareOfLessAndEq, Int.ofNat_lt, Int.ofNat_inj]
  rw [sinceEpoch, sinceEpoch, compare_places t.isDigit_nanoseconds u.isDigit_nanoseconds, order,
    compare_toInt, hnanoseconds]

/-! ### Seconds of 64 bits -/

theorem seconds?_eq_some {n : Int} {x : Int64} :
  seconds? n = some x ↔ x.toInt = n
  := by
  have hmin : Int64.minValue.toInt = -2 ^ 63 := rfl
  have hmax : Int64.maxValue.toInt = 2 ^ 63 - 1 := rfl
  rw [seconds?]
  constructor
  · intro h
    split at h
    case isTrue hfits =>
        obtain rfl := Option.some.inj h
        exact Int64.toInt_ofInt_of_le (by omega) (by omega)
    case isFalse => cases h
  · rintro rfl
    have hlow := x.le_toInt
    have hhigh := x.toInt_lt
    rw [if_pos (by omega), Int64.ofInt_toInt]

theorem seconds?_eq_none {n : Int} :
  seconds? n = none ↔ n < -2 ^ 63 ∨ 2 ^ 63 ≤ n
  := by
  have hmin : Int64.minValue.toInt = -2 ^ 63 := rfl
  have hmax : Int64.maxValue.toInt = 2 ^ 63 - 1 := rfl
  rw [seconds?]
  split <;> simp <;> omega

/-! ### Going forth and back -/

/-- Whether there is an instant with so many nanoseconds since the epoch. -/
def Exists (n : Int) : Prop := -2 ^ 63 ≤ n / 1000000000 ∧ n / 1000000000 < 2 ^ 63

/-- The instant is the one with so many nanoseconds since the epoch. None is given only if there is
none. -/
def IsAt (n : Int) : Option Instant → Prop
  | some u => u.sinceEpoch = n
  | none => ¬ Exists n

theorem exists_sinceEpoch (t : Instant) :
  Exists t.sinceEpoch
  := by
  have hlow := t.seconds.le_toInt
  have hhigh := t.seconds.toInt_lt
  have hdigit := t.nanoseconds_lt
  rw [Exists, sinceEpoch]
  omega

theorem isAt_iff {n : Int} {r : Option Instant} :
  IsAt n r ↔ (r.isSome ↔ Exists n) ∧ ∀ u ∈ r, u.sinceEpoch = n
  := by
  cases r with
  | none => simp [IsAt]
  | some u =>
      constructor
      · rintro rfl
        simp [exists_sinceEpoch]
      · rintro ⟨-, h⟩
        exact h u rfl

theorem isAt_seconds? (m : Int) {k : Nat} (hk : k < 1000000000) :
  IsAt (m * 1000000000 + k) ((seconds? m).bind fun seconds => some ⟨seconds, k, hk⟩)
  := by
  cases hseconds : seconds? m with
  | none =>
      rw [seconds?_eq_none] at hseconds
      simp only [Option.bind_none, IsAt, Exists]
      omega
  | some seconds =>
      rw [seconds?_eq_some] at hseconds
      rw [Option.bind_some, IsAt, sinceEpoch, hseconds]

/-- To go a span forth is to add its nanoseconds. -/
theorem isAt_later? (t : Instant) (d : Span) :
  IsAt (t.sinceEpoch + d.length) (t.later? d)
  := by
  have ht := t.nanoseconds_lt
  have hd := d.nanoseconds_lt
  rw [later?]
  cases hseconds : seconds? (t.seconds.toInt + d.seconds.toNat) with
  | none =>
      have hlow := t.seconds.le_toInt
      rw [seconds?_eq_none] at hseconds
      simp only [bind, Option.bind, IsAt, Exists, sinceEpoch, Span.length]
      omega
  | some seconds =>
      rw [seconds?_eq_some] at hseconds
      simp only [bind, Option.bind_some]
      split
      case isTrue =>
          simp only [IsAt, sinceEpoch, Span.length]
          omega
      case isFalse =>
          -- The carried second can be one too many where the sum of the seconds is not.
          have hrest : t.nanoseconds + d.nanoseconds - 1000000000 < 1000000000 := by omega
          have hsum : t.sinceEpoch + d.length = (seconds.toInt + 1) * 1000000000
              + (t.nanoseconds + d.nanoseconds - 1000000000 : Nat) := by
            rw [sinceEpoch, Span.length]
            omega
          rw [hsum]
          exact isAt_seconds? _ hrest

/-- To go a span back is to subtract its nanoseconds. -/
theorem isAt_earlier? (t : Instant) (d : Span) :
  IsAt (t.sinceEpoch - d.length) (t.earlier? d)
  := by
  have ht := t.nanoseconds_lt
  have hd := d.nanoseconds_lt
  rw [earlier?]
  cases hseconds : seconds? (t.seconds.toInt - d.seconds.toNat) with
  | none =>
      have hhigh := t.seconds.toInt_lt
      rw [seconds?_eq_none] at hseconds
      simp only [bind, Option.bind, IsAt, Exists, sinceEpoch, Span.length]
      omega
  | some seconds =>
      rw [seconds?_eq_some] at hseconds
      simp only [bind, Option.bind_some]
      split
      case isTrue =>
          simp only [IsAt, sinceEpoch, Span.length]
          omega
      case isFalse =>
          have hrest : t.nanoseconds + 1000000000 - d.nanoseconds < 1000000000 := by omega
          have hdifference : t.sinceEpoch - d.length = (seconds.toInt - 1) * 1000000000
              + (t.nanoseconds + 1000000000 - d.nanoseconds : Nat) := by
            rw [sinceEpoch, Span.length]
            omega
          rw [hdifference]
          exact isAt_seconds? _ hrest

theorem isAt_eq_some {n : Int} {r : Option Instant} (h : IsAt n r) (hn : Exists n) :
  ∃ u, r = some u ∧ u.sinceEpoch = n
  := by
  cases r with
  | none => exact absurd hn h
  | some u => exact ⟨u, rfl, h⟩

end Instant

/-! ### Timestamps -/

namespace Timestamp

open Instant (IsAt)

/-- There is an instant at every number of whole seconds. -/
theorem wholeSeconds?_eq (t : Timestamp) :
  ∃ start, t.wholeSeconds? = some start ∧ start.sinceEpoch = t.seconds.toInt * 1000000000
  := by
  have hlow := t.seconds.le_toInt
  have hhigh := t.seconds.toInt_lt
  have hmagnitude : (UInt64.ofNat t.seconds.toInt.natAbs).toNat = t.seconds.toInt.natAbs :=
    UInt64.toNat_ofNat_of_lt (by rw [UInt64.size]; omega)
  have hlength := Span.length_ofSeconds (.ofNat t.seconds.toInt.natAbs)
  have hsign : 0 ≤ t.seconds ↔ 0 ≤ t.seconds.toInt := Int64.le_iff_toInt_le
  have hepoch : Instant.epoch.sinceEpoch = 0 := rfl
  rw [hmagnitude] at hlength
  -- The magnitude of the least number of seconds has 64 bits without a sign, but not with one.
  have hstart : IsAt (t.seconds.toInt * 1000000000) t.wholeSeconds? := by
    rw [wholeSeconds?]
    split
    case isTrue hforth =>
        rw [hsign] at hforth
        have hseconds : t.seconds.toInt * 1000000000 = Instant.epoch.sinceEpoch
            + (Span.ofSeconds (.ofNat t.seconds.toInt.natAbs)).length := by
          rw [hlength, hepoch]
          omega
        rw [hseconds]
        apply Instant.isAt_later?
    case isFalse hback =>
        rw [hsign] at hback
        have hseconds : t.seconds.toInt * 1000000000 = Instant.epoch.sinceEpoch
            - (Span.ofSeconds (.ofNat t.seconds.toInt.natAbs)).length := by
          rw [hlength, hepoch]
          omega
        rw [hseconds]
        apply Instant.isAt_earlier?
  apply Instant.isAt_eq_some hstart
  rw [Instant.Exists]
  omega

theorem instant?_of_negative {t : Timestamp} (h : t.nanoseconds.toInt < 0) :
  t.instant? = none
  := if_pos (Int64.lt_iff_toInt_lt.mpr h)

theorem isAt_instant? {t : Timestamp} (h : 0 ≤ t.nanoseconds.toInt) :
  IsAt (t.seconds.toInt * 1000000000 + t.nanoseconds.toInt) t.instant?
  := by
  have hhigh := t.nanoseconds.toInt_lt
  have hsign : ¬ t.nanoseconds < 0 := by
    rw [Int64.lt_iff_toInt_lt]
    exact not_lt.mpr h
  obtain ⟨start, hstart, hseconds⟩ := t.wholeSeconds?_eq
  have hnanoseconds : (t.nanoseconds.toUInt64.toNat : Int) = t.nanoseconds.toInt := by
    rw [Int64.toNat_toUInt64_of_le (Int64.le_iff_toInt_le.mpr h)]
    exact Int.toNat_of_nonneg h
  have hlength := Span.length_ofNanoseconds t.nanoseconds.toUInt64
  rw [hnanoseconds] at hlength
  rw [instant?, if_neg hsign, hstart, ← hseconds, ← hlength]
  exact Instant.isAt_later? start _

/-- The nanoseconds are part of a second. -/
def Normal (t : Timestamp) : Prop := IsDigit 1000000000 t.nanoseconds.toInt

instance (t : Timestamp) : Decidable t.Normal := inferInstanceAs (Decidable (_ ∧ _))

theorem order_eq_compare {a b : Timestamp} (ha : a.Normal) (hb : b.Normal) :
  a.order b = compare (a.seconds.toInt * 1000000000 + a.nanoseconds.toInt)
    (b.seconds.toInt * 1000000000 + b.nanoseconds.toInt)
  := by
  rw [compare_places ha hb, order, compare_toInt, compare_toInt]

/-- A timestamp denotes an instant exactly if its nanoseconds are not negative and its seconds have
64 bits with those that its nanoseconds amount to. The instant is as many nanoseconds from the
epoch. Timestamps whose nanoseconds are part of a second are in the order of their instants. -/
theorem instant?_exact :
  (∀ t : Timestamp,
      (t.instant?.isSome ↔ 0 ≤ t.nanoseconds.toInt
        ∧ t.seconds.toInt + t.nanoseconds.toInt / 1000000000 ≤ 2 ^ 63 - 1)
      ∧ ∀ u ∈ t.instant?,
        u.sinceEpoch = t.seconds.toInt * 1000000000 + t.nanoseconds.toInt)
    ∧ ∀ a b : Timestamp, a.Normal → b.Normal → ∃ u v,
        a.instant? = some u ∧ b.instant? = some v ∧ a.order b = u.order v
          ∧ u.order v = compare u.sinceEpoch v.sinceEpoch
  := by
  constructor
  · intro t
    rcases lt_or_ge t.nanoseconds.toInt 0 with hnegative | h
    · rw [instant?_of_negative hnegative]
      simp [not_le.mpr hnegative]
    · have hlow := t.seconds.le_toInt
      obtain ⟨hsome, hat⟩ := Instant.isAt_iff.mp (isAt_instant? h)
      refine ⟨?_, hat⟩
      rw [hsome, Instant.Exists]
      omega
  · intro a b ha hb
    have hexists : ∀ t : Timestamp, t.Normal →
        Instant.Exists (t.seconds.toInt * 1000000000 + t.nanoseconds.toInt) := by
      rintro t ⟨hlow, hhigh⟩
      have hleast := t.seconds.le_toInt
      have hgreatest := t.seconds.toInt_lt
      rw [Instant.Exists]
      omega
    obtain ⟨u, hu, hua⟩ := Instant.isAt_eq_some (isAt_instant? ha.1) (hexists a ha)
    obtain ⟨v, hv, hvb⟩ := Instant.isAt_eq_some (isAt_instant? hb.1) (hexists b hb)
    refine ⟨u, v, hu, hv, ?_, Instant.order_eq_compare u v⟩
    rw [Instant.order_eq_compare, hua, hvb, order_eq_compare ha hb]

/-- The last nanosecond before the epoch, and one of the last second of all. -/
theorem instant?_exact_ends :
  Normal ⟨-1, 999999999⟩ ∧ Normal ⟨9223372036854775807, 1⟩ ∧ ∃ u v,
    instant? ⟨-1, 999999999⟩ = some u ∧ instant? ⟨9223372036854775807, 1⟩ = some v
      ∧ order ⟨-1, 999999999⟩ ⟨9223372036854775807, 1⟩ = u.order v
      ∧ u.order v = compare u.sinceEpoch v.sinceEpoch
  := by
  have hbefore : Normal ⟨-1, 999999999⟩ := by decide
  have hlast : Normal ⟨9223372036854775807, 1⟩ := by decide
  exact ⟨hbefore, hlast, instant?_exact.2 _ _ hbefore hlast⟩

end Timestamp

end SymbolIndex
