import Mathlib.Data.List.TakeWhile
import Mathlib.Logic.ExistsUnique
import SymbolIndex.Contents.UnitName
import SymbolIndex.Proofs.Json.Printed

/-!
# Units of different names

The name of a unit says what the file is called and what the hash of the path is, and nothing else.
A step of the hash can be taken back, as the prime of the hash has an inverse among the numbers of
64 bits. So what comes behind two paths does not bring their hashes together, and a single octet
that is different keeps them apart.
-/

namespace SymbolIndex

open Text (Octets octets)

/-! ### Steps of the hash -/

theorem mul_prime_injective :
  Function.Injective fun h : UInt64 => h * 0x100000001b3
  := by
  have hinverse : (0x100000001b3 : UInt64) * 0xce965057aff6957b = 1 := by decide
  intro h h' heq
  calc h
    _ = h * 0x100000001b3 * 0xce965057aff6957b := by
        rw [UInt64.mul_assoc, hinverse, UInt64.mul_one]
    _ = h' * 0x100000001b3 * 0xce965057aff6957b := congrArg (· * 0xce965057aff6957b) heq
    _ = h' := by rw [UInt64.mul_assoc, hinverse, UInt64.mul_one]

/-- A step can be taken back: the octet and what comes of the step say where it began. -/
theorem hashStep_left_inj {h h' : UInt64} {b : UInt8} :
  hashStep h b = hashStep h' b ↔ h = h'
  := by
  rw [hashStep, hashStep, mul_prime_injective.eq_iff, UInt64.xor_left_inj]

/-- Steps from one place by different octets lead to different places. -/
theorem hashStep_right_inj {h : UInt64} {b b' : UInt8} :
  hashStep h b = hashStep h b' ↔ b = b'
  := by
  rw [hashStep, hashStep, mul_prime_injective.eq_iff, UInt64.xor_right_inj, UInt8.toUInt64_inj]

theorem hashSteps_inj {h h' : UInt64} (bs : Octets) :
  bs.foldl hashStep h = bs.foldl hashStep h' ↔ h = h'
  := by
  induction bs generalizing h h' with
  | nil => exact Iff.rfl
  | cons b bs ih => rw [List.foldl_cons, List.foldl_cons, ih, hashStep_left_inj]

/-- What comes behind two paths leaves their hashes together or apart. -/
theorem hash_append_inj {as bs : Octets} (cs : Octets) :
  hash (as ++ cs) = hash (bs ++ cs) ↔ hash as = hash bs
  := by
  rw [hash, hash, List.foldl_append, List.foldl_append, hashSteps_inj]
  exact Iff.rfl

/-- Hashes of paths that are different in one octet are different. -/
theorem hash_octet_inj {front back : Octets} {b b' : UInt8} :
  hash (front ++ b :: back) = hash (front ++ b' :: back) ↔ b = b'
  := by
  rw [hash, hash, List.foldl_append, List.foldl_append, List.foldl_cons, List.foldl_cons,
    hashSteps_inj, hashStep_right_inj]

/-! ### One octet that is different -/

/-- Of two lists of one length one element is different exactly if they are the same before it and
behind it. -/
theorem existsUnique_ne_iff {as bs : Octets} :
  (as.length = bs.length ∧ ∃! i : Nat, as[i]? ≠ bs[i]?)
    ↔ ∃ front b b' back, as = front ++ b :: back ∧ bs = front ++ b' :: back ∧ b ≠ b'
  := by
  constructor
  · rintro ⟨hlength, i, hi, hunique⟩
    have hsame : ∀ j, j ≠ i → as[j]? = bs[j]? := fun j hj => by
      by_contra hne
      exact hj (hunique j hne)
    have has : i < as.length := by
      by_contra hlong
      apply hi
      rw [List.getElem?_eq_none (by omega), List.getElem?_eq_none (by omega)]
    have hbs : i < bs.length := hlength ▸ has
    have hfront : as.take i = bs.take i := by
      apply List.ext_getElem?
      intro j
      rw [List.getElem?_take, List.getElem?_take]
      split
      · exact hsame j (by omega)
      · rfl
    have hback : as.drop (i + 1) = bs.drop (i + 1) := by
      apply List.ext_getElem?
      intro j
      rw [List.getElem?_drop, List.getElem?_drop]
      exact hsame _ (by omega)
    refine ⟨as.take i, as[i], bs[i], as.drop (i + 1), ?_, ?_, ?_⟩
    · rw [List.getElem_cons_drop, List.take_append_drop]
    · rw [hfront, hback, List.getElem_cons_drop, List.take_append_drop]
    · intro heq
      apply hi
      rw [List.getElem?_eq_getElem has, List.getElem?_eq_getElem hbs, heq]
  · rintro ⟨front, b, b', back, rfl, rfl, hne⟩
    refine ⟨by simp, front.length, by simpa using hne, fun j hj => ?_⟩
    by_contra hother
    apply hj
    rcases Nat.lt_or_gt_of_ne hother with hlt | hgt
    · rw [List.getElem?_append_left hlt, List.getElem?_append_left hlt]
    · have hbehind : j - front.length = j - front.length - 1 + 1 := by omega
      rw [List.getElem?_append_right hgt.le, List.getElem?_append_right hgt.le, hbehind,
        List.getElem?_cons_succ, List.getElem?_cons_succ]

theorem hash_ne_of_one {as bs : Octets} (hlength : as.length = bs.length)
    (hone : ∃! i : Nat, as[i]? ≠ bs[i]?) :
  hash as ≠ hash bs
  := by
  obtain ⟨front, b, b', back, rfl, rfl, hne⟩ := existsUnique_ne_iff.mp ⟨hlength, hone⟩
  exact fun h => hne (hash_octet_inj.mp h)

/-! ### File names -/

theorem slash_notMem_fileName (path : List Char) :
  '/' ∉ fileName path
  := by
  rw [fileName, List.mem_reverse]
  intro h
  simpa using List.mem_takeWhile_imp h

theorem fileName_append_slash (directory file : List Char) :
  fileName (directory ++ '/' :: file) = fileName file
  := by
  have hslash : ('/' :: directory.reverse).takeWhile (· ≠ '/') = [] := by simp
  have hreverse : (directory ++ '/' :: file).reverse
      = file.reverse ++ '/' :: directory.reverse := by simp
  rw [fileName, fileName, hreverse, List.takeWhile_append, hslash]
  split
  case isTrue hwhole =>
      rw [List.append_nil, (List.takeWhile_prefix _).eq_of_length hwhole]
  case isFalse => rfl

/-- A path is its file name, or has it behind a slash. -/
theorem fileName_cases (path : List Char) :
  fileName path = path ∨ ∃ directory, path = directory ++ '/' :: fileName path
  := by
  have hsplit : path = (path.reverse.dropWhile (· ≠ '/')).reverse ++ fileName path := by
    rw [fileName, ← List.reverse_append, List.takeWhile_append_dropWhile, List.reverse_reverse]
  cases hrest : path.reverse.dropWhile (· ≠ '/') with
  | nil =>
      rw [hrest] at hsplit
      exact .inl hsplit.symm
  | cons c cs =>
      have hc : c = '/' := by
        have hhead := List.head_dropWhile_not (fun c => decide (c ≠ '/'))
          (hrest ▸ List.cons_ne_nil c cs)
        simp only [hrest, List.head_cons] at hhead
        simpa using hhead
      rw [hrest, hc] at hsplit
      exact .inr ⟨cs.reverse, by simpa using hsplit⟩

/-! ### Hashes as texts -/

/-- The number that hexadecimal digits denote. -/
def hexadecimalValue (digits : List Char) : Nat :=
  digits.foldl (fun n c => n * 16 + (Json.digitValue? c).getD 0) 0

theorem hexadecimalValue_concat (digits : List Char) (c : Char) :
  hexadecimalValue (digits ++ [c])
    = hexadecimalValue digits * 16 + (Json.digitValue? c).getD 0
  := by
  rw [hexadecimalValue, List.foldl_append]
  rfl

theorem hexadecimalValue_hexadecimal (n : Nat) :
  hexadecimalValue (Text.hexadecimal n) = n
  := by
  have hdigit : ∀ d < 16, Json.digitValue? d.digitChar = some d := fun d hd =>
    Json.digitValue?_of_hexDigit (Json.hexDigit_digitChar hd)
  rw [Text.hexadecimal]
  induction n using Nat.strongRecOn with
  | ind n ih =>
      rw [Nat.toDigits_eq_if (by decide)]
      split
      case isTrue hlt => simp [hexadecimalValue, hdigit n hlt]
      case isFalse hge =>
          rw [hexadecimalValue_concat, ih (n / 16) (Nat.div_lt_self (by omega) (by decide)),
            hdigit _ (Nat.mod_lt n (by decide)), Option.getD_some, Nat.div_add_mod']

/-- A hash has sixteen digits. -/
theorem length_hashText (h : UInt64) :
  (hashText h).length = 16
  := by
  have hdigits : (Text.hexadecimal h.toNat).length ≤ 16 :=
    (Nat.length_toDigits_le_iff (by decide) (by decide)).mpr h.toNat_lt
  simp only [hashText, List.length_append, List.length_replicate]
  omega

theorem hexadecimalValue_hashText (h : UInt64) :
  hexadecimalValue (hashText h) = h.toNat
  := by
  have hzeros : ∀ n, (List.replicate n '0').foldl
      (fun n c => n * 16 + (Json.digitValue? c).getD 0) 0 = 0 := by
    intro n
    induction n with
    | zero => rfl
    | succ n ih => exact ih
  rw [hexadecimalValue, hashText, List.foldl_append, hzeros]
  exact hexadecimalValue_hexadecimal h.toNat

theorem hashText_injective :
  Function.Injective hashText
  := by
  intro h h' heq
  apply UInt64.toNat_inj.mp
  rw [← hexadecimalValue_hashText, heq, hexadecimalValue_hashText]

/-! ### Names of units -/

/-- The hash is read off the end of a name, so that the file name is what stands before it. -/
theorem unitName_inj {p q : String} :
  unitName p = unitName q
    ↔ fileName p.toList = fileName q.toList ∧ hash (octets p) = hash (octets q)
  := by
  constructor
  · intro h
    have hlength : ('-' :: hashText (hash (octets p))).length
        = ('-' :: hashText (hash (octets q))).length := by
      rw [List.length_cons, List.length_cons, length_hashText, length_hashText]
    obtain ⟨hfile, hhash⟩ := List.append_inj' (String.ofList_injective h) hlength
    exact ⟨hfile, hashText_injective (List.cons.inj hhash).2⟩
  · rintro ⟨hfile, hhash⟩
    rw [unitName, hfile, hhash, unitName]

theorem Text.octets_append (s t : String) :
  octets (s ++ t) = octets s ++ octets t
  := by
  rw [octets, String.toList_append, List.flatMap_append, octets, octets]

/-- Files of one name in two directories have one name of a unit exactly if the directories have
one hash. -/
theorem unitName_inj_directory {d e : String} (f : String) :
  unitName (d ++ "/" ++ f) = unitName (e ++ "/" ++ f) ↔ hash (octets d) = hash (octets e)
  := by
  have hfile : ∀ d : String, fileName (d ++ "/" ++ f).toList = fileName f.toList := by
    intro d
    have hslash : (d ++ "/" ++ f).toList = d.toList ++ '/' :: f.toList := by simp
    rw [hslash, fileName_append_slash]
  rw [unitName_inj, hfile, hfile, String.append_assoc, String.append_assoc, Text.octets_append d,
    Text.octets_append e, hash_append_inj]
  exact and_iff_right rfl

/-- Names of units keep files apart as far as the file names and the hashes of the paths do, where
the file name is what stands after the last slash. Paths of one length in octets that are different
in one octet have different names. What stands behind two paths leaves their hashes together or
apart, and so the directories of files of one name decide whether the names are different. -/
theorem unitName_apart :
  (∀ path, '/' ∉ fileName path
      ∧ (fileName path = path ∨ ∃ directory, path = directory ++ '/' :: fileName path))
    ∧ (∀ p q, unitName p = unitName q
        ↔ fileName p.toList = fileName q.toList ∧ hash (octets p) = hash (octets q))
    ∧ (∀ p q, (octets p).length = (octets q).length →
        (∃! i : Nat, (octets p)[i]? ≠ (octets q)[i]?) → unitName p ≠ unitName q)
    ∧ (∀ p q s, hash (octets (p ++ s)) = hash (octets (q ++ s))
        ↔ hash (octets p) = hash (octets q))
    ∧ ∀ d e f, unitName (d ++ "/" ++ f) = unitName (e ++ "/" ++ f)
        ↔ hash (octets d) = hash (octets e)
  := by
  refine ⟨fun path => ⟨slash_notMem_fileName path, fileName_cases path⟩, fun p q => unitName_inj,
    fun p q hlength hone h => ?_, fun p q s => ?_, fun d e f => unitName_inj_directory f⟩
  · exact hash_ne_of_one hlength hone (unitName_inj.mp h).2
  · rw [Text.octets_append, Text.octets_append, hash_append_inj]

/-- Files of one name in two directories whose names differ in a letter. -/
theorem unitName_apart_letter :
  (octets "/build/a/main.o").length = (octets "/build/b/main.o").length
    ∧ (∃! i : Nat, (octets "/build/a/main.o")[i]? ≠ (octets "/build/b/main.o")[i]?)
    ∧ unitName "/build/a/main.o" ≠ unitName "/build/b/main.o"
  := by
  have hone := existsUnique_ne_iff.mpr ⟨octets "/build/", 0x61, 0x62, octets "/main.o",
    (by decide : octets "/build/a/main.o" = _), (by decide : octets "/build/b/main.o" = _),
    by decide⟩
  exact ⟨hone.1, hone.2, unitName_apart.2.2.1 _ _ hone.1 hone.2⟩

end SymbolIndex
