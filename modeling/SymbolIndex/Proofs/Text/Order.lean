import Mathlib.Data.List.Sort
import Mathlib.Data.String.Basic
import SymbolIndex.Proofs.Text.Utf8

/-!
# The order of texts

Texts are compared by their characters here, and by their octets where they are written. It is the
same order: the smaller one of two characters has the smaller octet at the first place at which
their octets differ. So a list that is sorted as texts is sorted as octets.
-/

namespace SymbolIndex.Text

/-- The octets of one text come before those of another one. -/
def Before (s t : String) : Prop := List.Lex (· < ·) (octets s) (octets t)

variable {m n : Nat} {x y : Octets}

/-! ### Characters -/

theorem lex_octet (hn : n < 0x100) (h : m < n) (x y : Octets) :
  List.Lex (· < ·) (UInt8.ofNat m :: x) (UInt8.ofNat n :: y)
  := by
  apply List.Lex.rel
  rw [UInt8.lt_iff_toNat_lt, toNat_ofNat_octet (by omega), toNat_ofNat_octet hn]
  exact h

/-- Octets that begin alike are compared by what comes behind. -/
theorem lex_octets (hn : n < 0x100) (h : m ≤ n) (hrest : m = n → List.Lex (· < ·) x y) :
  List.Lex (· < ·) (UInt8.ofNat m :: x) (UInt8.ofNat n :: y)
  := by
  rcases Nat.lt_or_eq_of_le h with hlt | rfl
  · exact lex_octet hn hlt x y
  · exact List.Lex.cons (hrest rfl)

/-- The smaller character has the smaller octets, whatever comes behind them. -/
theorem lex_utf8EncodeChar {c d : Char} (h : c < d) (x y : Octets) :
  List.Lex (· < ·) (String.utf8EncodeChar c ++ x) (String.utf8EncodeChar d ++ y)
  := by
  have hlt : c.val.toNat < d.val.toNat := h
  have hvalid : d.val.toNat < 0xD800 ∨ 0xDFFF < d.val.toNat ∧ d.val.toNat < 0x110000 := d.valid
  simp only [String.utf8EncodeChar]
  generalize c.val.toNat = m at hlt
  generalize d.val.toNat = n at hlt hvalid
  -- A character with more octets has the larger first octet. With as many octets, the characters
  -- are compared digit by digit, to the base of 64.
  split
  case isTrue =>
      repeat' split
      all_goals exact lex_octet (by omega) (by omega) _ _
  split
  case isTrue =>
      rw [if_neg (by omega)]
      split
      case isTrue =>
          refine lex_octets (by omega) (by omega) fun hfirst => ?_
          exact lex_octet (by omega) (by omega) _ _
      case isFalse =>
          split <;> exact lex_octet (by omega) (by omega) _ _
  split
  case isTrue =>
      rw [if_neg (by omega), if_neg (by omega)]
      split
      case isTrue =>
          refine lex_octets (by omega) (by omega) fun hfirst => ?_
          refine lex_octets (by omega) (by omega) fun hsecond => ?_
          exact lex_octet (by omega) (by omega) _ _
      case isFalse => exact lex_octet (by omega) (by omega) _ _
  case isFalse =>
      rw [if_neg (by omega), if_neg (by omega), if_neg (by omega)]
      refine lex_octets (by omega) (by omega) fun hfirst => ?_
      refine lex_octets (by omega) (by omega) fun hsecond => ?_
      refine lex_octets (by omega) (by omega) fun hthird => ?_
      exact lex_octet (by omega) (by omega) _ _

/-! ### Texts -/

theorem utf8EncodeChar_ne_nil (c : Char) :
  String.utf8EncodeChar c ≠ []
  := by
  intro h
  have hread := decodeFrom_char [] c
  rw [h] at hread
  cases hread

theorem lex_flatMap {cs ds : List Char} (h : List.Lex (· < ·) cs ds) :
  List.Lex (· < ·) (cs.flatMap String.utf8EncodeChar) (ds.flatMap String.utf8EncodeChar)
  := by
  induction h with
  | @nil d ds =>
      rw [List.flatMap_nil, List.flatMap_cons]
      cases hd : String.utf8EncodeChar d with
      | nil => exact absurd hd (utf8EncodeChar_ne_nil d)
      | cons b bs => exact List.Lex.nil
  | cons h ih =>
      rw [List.flatMap_cons, List.flatMap_cons]
      exact List.Lex.append_left (· < ·) ih _
  | rel h =>
      rw [List.flatMap_cons, List.flatMap_cons]
      exact lex_utf8EncodeChar h _ _

theorem before_of_lt {s t : String} (h : s < t) :
  Before s t
  := lex_flatMap (String.lt_iff_toList_lt.mp h)

theorem Before.asymm {s t : String} (h : Before s t) :
  ¬ Before t s
  := Std.Asymm.asymm (r := List.Lex ((· < ·) : UInt8 → UInt8 → Prop)) _ _ h

/-- The order of octets is the order of texts. -/
theorem before_iff_lt {s t : String} :
  Before s t ↔ s < t
  := by
  constructor
  · intro h
    by_contra hlt
    rcases lt_or_eq_of_le (not_lt.mp hlt) with hafter | rfl
    · exact h.asymm (before_of_lt hafter)
    · exact h.asymm h
  · exact before_of_lt

/-- A character beyond the first plane has larger octets than one at the end of the first plane. -/
example : Before "\uFFFD" "😀" := before_iff_lt.mpr (by decide)

/-! ### Lists of texts -/

/-- The second list is the first one in the order of octets. -/
structure Ordered (texts sorted : List String) : Prop where
  perm : sorted.Perm texts
  ascending : sorted.Pairwise fun s t => ¬ Before t s

variable {texts sorted others : List String}

theorem not_before_iff_le {s t : String} :
  ¬ Before t s ↔ s ≤ t
  := by
  rw [before_iff_lt, not_lt]

theorem ordered_mergeSort (texts : List String) :
  Ordered texts (texts.mergeSort fun s t => s ≤ t)
  where
  perm := List.mergeSort_perm texts _
  ascending := by
    apply (List.pairwise_mergeSort' (· ≤ ·) texts).imp
    exact not_before_iff_le.mpr

/-- There is one order only. -/
theorem Ordered.unique (h : Ordered texts sorted) (hothers : Ordered texts others) :
  sorted = others
  := by
  apply (h.perm.trans hothers.perm.symm).eq_of_pairwise _ h.ascending hothers.ascending
  intro s t _ _ hst hts
  exact le_antisymm (not_before_iff_le.mp hst) (not_before_iff_le.mp hts)

/-- What is left out of a list is left out of its order. -/
theorem Ordered.filter (h : Ordered texts sorted) (p : String → Bool) :
  Ordered (texts.filter p) (sorted.filter p)
  := ⟨h.perm.filter p, h.ascending.filter p⟩

end SymbolIndex.Text
