import Mathlib.Algebra.Group.Nat.Defs
import SymbolIndex.Library.Loading
import SymbolIndex.Proofs.Places

/-!
# Versions as numbers

The number of a version is its major part times ten thousand, with the minor part added. A version
can be encoded if its number has 32 bits, and every number of 32 bits encodes the version that it is
decoded to. A minor part of ten thousand and more is carried into the major part: such a version is
not read back, and no library has it. All others are ordered as their numbers, and a required one is
served by the numbers from its own one on that have its major part.
-/

namespace SymbolIndex

namespace Version

/-- The number of a version, of any size. -/
def number (v : Version) : Nat := v.major.toNat * 10000 + v.minor.toNat

/-- The minor part is not carried. -/
def Proper (v : Version) : Prop := v.minor.toNat < 10000

instance (v : Version) : Decidable v.Proper := inferInstanceAs (Decidable (_ < _))

variable {v w : Version} {raw raw' : UInt32}

/-! ### Encoding -/

theorem encode_of_fits (h : v.number < 2 ^ 32) :
  v.encode = .ok (UInt32.ofNat v.number)
  := by
  -- The product is checked before the sum, which is not smaller.
  have hhigh : ¬ UInt32.size ≤ v.major.toNat * scale := by
    rw [number] at h
    rw [UInt32.size, scale]
    omega
  have hsum : ¬ UInt32.size ≤ v.number := Nat.not_le.mpr h
  rw [encode]
  simp only [if_neg hhigh]
  exact if_neg hsum

theorem encode_of_large (h : 2 ^ 32 ≤ v.number) :
  ∃ e, v.encode = .error e
  := by
  rw [encode]
  by_cases hhigh : UInt32.size ≤ v.major.toNat * scale
  · exact ⟨.multiplication, if_pos hhigh⟩
  · use .addition
    simp only [if_neg hhigh]
    exact if_pos h

/-- A version cannot be encoded exactly if its number has more than 32 bits. -/
theorem encode_eq_error :
  (∃ e, v.encode = .error e) ↔ 2 ^ 32 ≤ v.number
  := by
  constructor
  · rintro ⟨e, he⟩
    by_contra hfits
    rw [encode_of_fits (Nat.not_le.mp hfits)] at he
    cases he
  · exact encode_of_large

theorem encode_eq_ok :
  v.encode = .ok raw ↔ raw.toNat = v.number
  := by
  rcases Nat.lt_or_ge v.number (2 ^ 32) with hfits | hlarge
  · have hnumber : (UInt32.ofNat v.number).toNat = v.number := UInt32.toNat_ofNat_of_lt hfits
    rw [encode_of_fits hfits, Except.ok.injEq, ← UInt32.toNat_inj, hnumber, eq_comm]
  · obtain ⟨e, he⟩ := encode_of_large hlarge
    have hraw := raw.toNat_lt
    rw [he]
    constructor
    · intro h
      cases h
    · intro h
      omega

/-! ### Decoding -/

theorem major_decode (raw : UInt32) :
  (decode raw).major.toNat = raw.toNat / 10000
  := by
  have hraw := raw.toNat_lt
  exact UInt32.toNat_ofNat_of_lt (by rw [scale, UInt32.size]; omega)

theorem minor_decode (raw : UInt32) :
  (decode raw).minor.toNat = raw.toNat % 10000
  := by
  have hraw := raw.toNat_lt
  exact UInt32.toNat_ofNat_of_lt (by rw [scale, UInt32.size]; omega)

theorem proper_decode (raw : UInt32) :
  (decode raw).Proper
  := by
  rw [Proper, minor_decode]
  exact Nat.mod_lt _ (by decide)

theorem number_decode (raw : UInt32) :
  (decode raw).number = raw.toNat
  := by
  rw [number, major_decode, minor_decode, Nat.div_add_mod']

/-! ### The order of numbers -/

theorem Proper.isDigit (h : v.Proper) :
  IsDigit 10000 (v.minor.toNat : Int)
  := ⟨Int.natCast_nonneg _, Int.ofNat_lt.mpr h⟩

/-- Versions are ordered as their numbers. -/
theorem Proper.order_eq_compare (hv : v.Proper) (hw : w.Proper) :
  v.order w = compare (v.number : Int) w.number
  := by
  have hv' : (v.number : Int) = v.major.toNat * 10000 + v.minor.toNat := rfl
  have hw' : (w.number : Int) = w.major.toNat * 10000 + w.minor.toNat := rfl
  rw [order, compare_toNat, compare_toNat, hv', hw', compare_places hv.isDigit hw.isDigit]

/-- A version is known by its number. -/
theorem Proper.eq_of_number (hv : v.Proper) (hw : w.Proper) (h : v.number = w.number) :
  v = w
  := by
  rw [Proper] at hv hw
  rw [number, number] at h
  have hmajor : v.major = w.major := UInt32.toNat_inj.mp (by omega)
  have hminor : v.minor = w.minor := UInt32.toNat_inj.mp (by omega)
  cases v
  cases w
  cases hmajor
  cases hminor
  rfl

theorem decode_encoded (h : v.encode = .ok raw) :
  decode raw = v ↔ v.Proper
  := by
  constructor
  · rintro rfl
    exact proper_decode raw
  · intro hv
    apply (proper_decode raw).eq_of_number hv
    rw [number_decode, encode_eq_ok.mp h]

/-! ### Required versions -/

/-- The numbers that serve where a version is required. -/
theorem servedBy_decode (required : Version) (raw : UInt32) :
  required.servedBy (decode raw) = true
    ↔ required.Proper ∧ required.number ≤ raw.toNat
      ∧ raw.toNat < (required.major.toNat + 1) * 10000
  := by
  rw [servedBy, Bool.and_eq_true, beq_iff_eq, decide_eq_true_iff, ← UInt32.toNat_inj,
    UInt32.le_iff_toNat_le, major_decode, minor_decode, Proper, number]
  omega

theorem checkVersion_eq_ok {required reported : Version} :
  checkVersion required reported = .ok () ↔ required.servedBy reported = true
  := by
  rw [checkVersion]
  split <;> simp_all

end Version

/-! ### Loading -/

variable {ε α β : Type}

theorem bind_eq_ok {x : Except ε α} {f : α → Except ε β} {b : β} :
  x >>= f = .ok b ↔ ∃ a, x = .ok a ∧ f a = .ok b
  := by
  cases x with
  | error e => simp [bind, Except.bind]
  | ok a => simp [bind, Except.bind]

/-- A library that has been loaded serves where the configured version is required. -/
theorem SymbolSource.served_of_load {source : SymbolSource α} {config : LibraryConfig}
    {library : LoadedLibrary α} (h : source.load config = .ok library) :
  ∃ raw, config.requiredVersion.servedBy (Version.decode raw) = true
  := by
  obtain ⟨⟨resolved, m⟩, -, h⟩ := bind_eq_ok.mp h
  obtain ⟨entries, -, h⟩ := bind_eq_ok.mp h
  obtain ⟨⟨closures, m⟩, -, h⟩ := bind_eq_ok.mp h
  obtain ⟨⟨⟩, hversion, -⟩ := bind_eq_ok.mp h
  use source.version m
  rw [← Version.checkVersion_eq_ok]
  cases hcheck : checkVersion config.requiredVersion (Version.decode (source.version m)) with
  | ok _ => rfl
  | error e =>
      rw [hcheck] at hversion
      cases hversion

/-- Numbers and versions fit together. A version cannot be encoded exactly if its number has more
than 32 bits. Every number is encoded by the version that it is decoded to. A version that has been
encoded is read back exactly if its minor part is not carried, and such versions are ordered as what
they are encoded to. A required version is served by the numbers of its major part from its own
number on, but by none if its minor part is carried: no library is loaded then. -/
theorem Version.numbers_fit :
  (∀ v : Version, (∃ e, v.encode = .error e) ↔ 2 ^ 32 ≤ v.major.toNat * 10000 + v.minor.toNat)
    ∧ (∀ raw, (decode raw).encode = .ok raw)
    ∧ (∀ (v : Version) raw, v.encode = .ok raw → (decode raw = v ↔ v.minor.toNat < 10000))
    ∧ (∀ (v w : Version) raw raw', v.minor.toNat < 10000 → w.minor.toNat < 10000 →
        v.encode = .ok raw → w.encode = .ok raw' → v.order w = compare raw raw')
    ∧ (∀ (required : Version) raw, required.minor.toNat < 10000 →
        (checkVersion required (decode raw) = .ok ()
          ↔ required.major.toNat * 10000 + required.minor.toNat ≤ raw.toNat
            ∧ raw.toNat < (required.major.toNat + 1) * 10000))
    ∧ ∀ required : Version, 10000 ≤ required.minor.toNat →
        (∀ raw, checkVersion required (decode raw)
          = .error (.incompatible "API" required (decode raw)))
        ∧ ∀ (α : Type) (source : SymbolSource α) config library,
          config.requiredVersion = required → source.load config ≠ .ok library
  := by
  refine ⟨fun v => encode_eq_error, ?_, fun v raw h => decode_encoded h, ?_, ?_, ?_⟩
  · intro raw
    rw [encode_eq_ok, number_decode]
  · intro v w raw raw' hv hw hraw hraw'
    rw [Proper.order_eq_compare hv hw, compare_toNat, encode_eq_ok.mp hraw, encode_eq_ok.mp hraw']
  · intro required raw h
    rw [checkVersion_eq_ok, servedBy_decode]
    exact and_iff_right h
  · intro required h
    have hnone : ∀ raw, ¬ required.servedBy (decode raw) = true := by
      intro raw hserved
      have hproper : required.minor.toNat < 10000 := ((servedBy_decode required raw).mp hserved).1
      omega
    constructor
    · intro raw
      rw [checkVersion, if_neg (hnone raw)]
    · rintro α source config library rfl hload
      obtain ⟨raw, hraw⟩ := SymbolSource.served_of_load hload
      exact hnone raw hraw

/-- The greatest number of all, and the least minor part that is carried. -/
theorem Version.numbers_fit_ends :
  (encode ⟨429496, 7295⟩ = .ok 4294967295 ∧ encode ⟨429495, 9999⟩ = .ok 4294959999)
    ∧ decode 4294967295 = ⟨429496, 7295⟩
    ∧ order ⟨429495, 9999⟩ ⟨429496, 7295⟩ = compare (4294959999 : UInt32) 4294967295
    ∧ checkVersion ⟨429496, 7295⟩ (decode 4294967295) = .ok ()
    ∧ checkVersion ⟨0, 10000⟩ (decode 4294967295)
      = .error (.incompatible "API" ⟨0, 10000⟩ ⟨429496, 7295⟩)
  := by
  have hlast : encode ⟨429496, 7295⟩ = .ok 4294967295 := encode_eq_ok.mpr rfl
  have hbefore : encode ⟨429495, 9999⟩ = .ok 4294959999 := encode_eq_ok.mpr rfl
  obtain ⟨-, -, hread, horder, hserved, hcarried⟩ := numbers_fit
  have hdecode := (hread _ _ hlast).mpr (by decide)
  refine ⟨⟨hlast, hbefore⟩, hdecode, ?_, ?_, ?_⟩
  · exact horder _ _ _ _ (by decide) (by decide) hbefore hlast
  · exact (hserved _ _ (by decide)).mpr (by decide)
  · have herror := (hcarried ⟨0, 10000⟩ (by decide)).1 4294967295
    rwa [hdecode] at herror ⊢

end SymbolIndex
