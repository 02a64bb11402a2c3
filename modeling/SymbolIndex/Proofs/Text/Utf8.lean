import Mathlib.Data.List.TakeWhile
import SymbolIndex.Text.Utf8

/-!
# Reading what has been written

The octets of a text are read back as the text. A character is written with a first octet that
says how many others are owed, and each of these is in the range that is demanded of it. No octet
of a text without zeros is zero.
-/

namespace SymbolIndex.Text

variable {n : Nat} {low high : UInt8} (bs : Octets)

theorem toNat_ofNat_octet (h : n < 0x100) :
  (UInt8.ofNat n).toNat = n
  := by
  rw [UInt8.toNat_ofNat']
  apply Nat.mod_eq_of_lt h

/-! ### First octets -/

theorem start_one (h : n < 0x80) :
  start (UInt8.ofNat n) = ([Char.ofNat n], none)
  := by
  have hn : (UInt8.ofNat n).toNat = n := toNat_ofNat_octet (by omega)
  simp [start, UInt8.lt_iff_toNat_lt, hn, h]

theorem start_two (hlow : 0xC2 ≤ n) (hhigh : n < 0xE0) :
  start (UInt8.ofNat n) = ([], some ⟨n - 0xC0, 0x80, 0xBF, 0⟩)
  := by
  have hn : (UInt8.ofNat n).toNat = n := toNat_ofNat_octet (by omega)
  have h₁ : ¬ n < 0x80 := by omega
  have h₂ : ¬ n < 0xC2 := by omega
  simp [start, UInt8.lt_iff_toNat_lt, hn, h₁, h₂, hhigh]

theorem start_three (hlow : 0xE0 ≤ n) (hhigh : n < 0xF0) :
  start (UInt8.ofNat n)
    = ([], some ⟨n - 0xE0, if n = 0xE0 then 0xA0 else 0x80, if n = 0xED then 0x9F else 0xBF, 1⟩)
  := by
  have hn : (UInt8.ofNat n).toNat = n := toNat_ofNat_octet (by omega)
  have h₁ : ¬ n < 0x80 := by omega
  have h₂ : ¬ n < 0xC2 := by omega
  have h₃ : ¬ n < 0xE0 := by omega
  simp [start, UInt8.lt_iff_toNat_lt, ← UInt8.toNat_inj, hn, h₁, h₂, h₃, hhigh]

theorem start_four (hlow : 0xF0 ≤ n) (hhigh : n < 0xF5) :
  start (UInt8.ofNat n)
    = ([], some ⟨n - 0xF0, if n = 0xF0 then 0x90 else 0x80, if n = 0xF4 then 0x8F else 0xBF, 2⟩)
  := by
  have hn : (UInt8.ofNat n).toNat = n := toNat_ofNat_octet (by omega)
  have h₁ : ¬ n < 0x80 := by omega
  have h₂ : ¬ n < 0xC2 := by omega
  have h₃ : ¬ n < 0xE0 := by omega
  have h₄ : ¬ n < 0xF0 := by omega
  simp [start, UInt8.lt_iff_toNat_lt, ← UInt8.toNat_inj, hn, h₁, h₂, h₃, h₄, hhigh]

/-! ### Octets that are owed -/

theorem decodeFrom_last (value : Nat) (hlow : low.toNat ≤ n) (hhigh : n ≤ high.toNat) :
  decodeFrom (some ⟨value, low, high, 0⟩) (UInt8.ofNat n :: bs)
    = Char.ofNat (value * 64 + (n - 0x80)) :: decodeFrom none bs
  := by
  have hn : (UInt8.ofNat n).toNat = n := toNat_ofNat_octet (by have := high.toNat_lt; omega)
  simp [decodeFrom, step, UInt8.le_iff_toNat_le, hn, hlow, hhigh]

theorem decodeFrom_next (value after : Nat) (hlow : low.toNat ≤ n) (hhigh : n ≤ high.toNat) :
  decodeFrom (some ⟨value, low, high, after + 1⟩) (UInt8.ofNat n :: bs)
    = decodeFrom (some ⟨value * 64 + (n - 0x80), 0x80, 0xBF, after⟩) bs
  := by
  have hn : (UInt8.ofNat n).toNat = n := toNat_ofNat_octet (by have := high.toNat_lt; omega)
  simp [decodeFrom, step, UInt8.le_iff_toNat_le, hn, hlow, hhigh]

theorem decodeFrom_start (b : UInt8) :
  decodeFrom none (b :: bs) = (start b).1 ++ decodeFrom (start b).2 bs
  := rfl

/-! ### A character and a text -/

/-- The octets of a character are read as the character, whatever comes behind them. -/
theorem decodeFrom_char (c : Char) :
  decodeFrom none (String.utf8EncodeChar c ++ bs) = c :: decodeFrom none bs
  := by
  have hvalid : c.val.toNat < 0xD800 ∨ 0xDFFF < c.val.toNat ∧ c.val.toNat < 0x110000 := c.valid
  have hc : Char.ofNat c.val.toNat = c := Char.ofNat_toNat c
  simp only [String.utf8EncodeChar]
  generalize c.val.toNat = v at hvalid hc
  split
  case isTrue hone =>
      rw [List.singleton_append, decodeFrom_start, start_one (by omega), hc]
      rfl
  split
  case isTrue htwo =>
      have hvalue : (v / 64 % 32 + 0xC0 - 0xC0) * 64 + (v % 64 + 0x80 - 0x80) = v := by omega
      simp only [List.cons_append, List.nil_append]
      rw [decodeFrom_start, start_two (by omega) (by omega), List.nil_append,
        decodeFrom_last _ _ (by simp) (by simp; omega), hvalue, hc]
  -- The second octet is in the range that the first one leaves: past the shorter forms, and
  -- outside the values that are no characters.
  split
  case isTrue hthree =>
      have hvalue : ((v / 4096 % 16 + 0xE0 - 0xE0) * 64 + (v / 64 % 64 + 0x80 - 0x80)) * 64
          + (v % 64 + 0x80 - 0x80) = v := by omega
      simp only [List.cons_append, List.nil_append]
      rw [decodeFrom_start, start_three (by omega) (by omega), List.nil_append,
        decodeFrom_next _ _ _ (by split <;> simp; omega) (by split <;> simp <;> omega),
        decodeFrom_last _ _ (by simp) (by simp; omega), hvalue, hc]
  case isFalse hfour =>
      have hvalue : (((v / 262144 % 8 + 0xF0 - 0xF0) * 64 + (v / 4096 % 64 + 0x80 - 0x80)) * 64
          + (v / 64 % 64 + 0x80 - 0x80)) * 64 + (v % 64 + 0x80 - 0x80) = v := by omega
      simp only [List.cons_append, List.nil_append]
      rw [decodeFrom_start, start_four (by omega) (by omega), List.nil_append,
        decodeFrom_next _ _ _ (by split <;> simp; omega) (by split <;> simp <;> omega),
        decodeFrom_next _ _ _ (by simp) (by simp; omega),
        decodeFrom_last _ _ (by simp) (by simp; omega), hvalue, hc]

/-- The octets of characters are read as the characters, whatever comes behind them. -/
theorem decodeFrom_chars (cs : List Char) :
  decodeFrom none (cs.flatMap String.utf8EncodeChar ++ bs) = cs ++ decodeFrom none bs
  := by
  induction cs with
  | nil => rfl
  | cons c cs ih =>
      rw [List.flatMap_cons, List.append_assoc, decodeFrom_char, ih, List.cons_append]

theorem decodeFrom_octets (cs : List Char) :
  decodeFrom none (cs.flatMap String.utf8EncodeChar) = cs
  := by
  have h := decodeFrom_chars [] cs
  rwa [List.append_nil, decodeFrom, List.append_nil] at h

/-- A text that has been written is read back. -/
@[simp]
theorem decode_octets (s : String) :
  decode (octets s) = s
  := by
  rw [decode, octets, decodeFrom_octets, String.ofList_toList]

/-- A text that can end with a zero is read back. -/
theorem decode_terminated {s : String} {bs : Octets} (h : terminated? s = some bs) :
  decode bs = s
  := by
  rw [terminated?] at h
  split at h
  · cases h
  · obtain rfl : octets s = bs := by simpa using h
    apply decode_octets

@[simp]
theorem read_octets (s : String) :
  read (some (octets s)) = s
  := decode_octets s

/-! ### Texts without zeros -/

theorem ofNat_octet_ne_zero {n : Nat} (hn : n ≠ 0) (h : n < 0x100) :
  UInt8.ofNat n ≠ 0
  := by
  intro hzero
  apply hn
  rw [← toNat_ofNat_octet h, hzero]
  rfl

/-- Only the character zero has an octet that is zero. -/
theorem ne_zero_of_mem_char {c : Char} (hc : c ≠ '\x00') {b : UInt8}
    (hb : b ∈ String.utf8EncodeChar c) :
  b ≠ 0
  := by
  have hvalue : c.val.toNat ≠ 0 := fun h => hc (Char.toNat_inj.mp h)
  simp only [String.utf8EncodeChar] at hb
  generalize c.val.toNat = v at hvalue hb
  -- An octet but for the only one of a character is 0x80 at least.
  split at hb
  case isTrue =>
      obtain rfl := List.mem_singleton.mp hb
      exact ofNat_octet_ne_zero hvalue (by omega)
  split at hb
  case isTrue =>
      simp only [List.mem_cons, List.not_mem_nil, or_false] at hb
      rcases hb with rfl | rfl <;> apply ofNat_octet_ne_zero <;> omega
  split at hb
  case isTrue =>
      simp only [List.mem_cons, List.not_mem_nil, or_false] at hb
      rcases hb with rfl | rfl | rfl <;> apply ofNat_octet_ne_zero <;> omega
  case isFalse =>
      simp only [List.mem_cons, List.not_mem_nil, or_false] at hb
      rcases hb with rfl | rfl | rfl | rfl <;> apply ofNat_octet_ne_zero <;> omega

theorem ne_zero_of_mem_octets {s : String} (h : '\x00' ∉ s.toList) {b : UInt8}
    (hb : b ∈ octets s) :
  b ≠ 0
  := by
  obtain ⟨c, hc, hb⟩ := List.mem_flatMap.mp hb
  exact ne_zero_of_mem_char (fun hzero => h (hzero ▸ hc)) hb

/-- A text without zeros is read up to its end. -/
theorem readTerminated_octets {s : String} (h : '\x00' ∉ s.toList) :
  readTerminated (some (octets s)) = s
  := by
  have hwhole : (octets s).takeWhile (· ≠ 0) = octets s := by
    rw [List.takeWhile_eq_self_iff]
    intro b hb
    simpa using ne_zero_of_mem_octets h hb
  rw [readTerminated, hwhole, decode_octets]

/-- Zeros keep a text from being written with a zero behind it. -/
theorem terminated?_eq_some {s : String} {bs : Octets} :
  terminated? s = some bs ↔ '\x00' ∉ s.toList ∧ bs = octets s
  := by
  rw [terminated?]
  by_cases h : '\x00' ∈ s.toList
  · simp [h]
  · simp [h, eq_comm]

theorem terminated?_eq_none {s : String} :
  terminated? s = none ↔ '\x00' ∈ s.toList
  := by
  rw [terminated?]
  by_cases h : '\x00' ∈ s.toList <;> simp [h]

end SymbolIndex.Text
