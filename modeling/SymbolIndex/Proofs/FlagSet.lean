import Mathlib.Data.Set.Lattice
import Mathlib.Data.List.Nodup
import SymbolIndex.Symbol.Properties
import SymbolIndex.Symbol.Roles

/-!
# Sets of flags as sets

A set of flags is known by the positions of its bits, and the operations on the numbers are those
on the sets of positions. In a catalogue whose names are different and have no separator in them,
the text of a set is read back as the names of its flags. So two sets have one text exactly if they
agree on the named bits, whatever their other bits are.
-/

namespace SymbolIndex

namespace FlagSet

variable {a b : UInt64} {catalogue : List NamedFlag} {f : NamedFlag} {n : String}

/-! ### Positions -/

/-- The positions of the bits of a set. -/
def positions (a : UInt64) : Set Nat := {i | a.toNat.testBit i = true}

theorem positions_injective :
  Function.Injective positions
  := by
  intro a b h
  apply UInt64.toNat_inj.mp
  apply Nat.eq_of_testBit_eq
  intro i
  exact Bool.eq_iff_iff.mpr (Set.ext_iff.mp h i)

@[simp]
theorem positions_or (a b : UInt64) :
  positions (a ||| b) = positions a ∪ positions b
  := by
  ext i
  simp [positions]

@[simp]
theorem positions_and (a b : UInt64) :
  positions (a &&& b) = positions a ∩ positions b
  := by
  ext i
  simp [positions]

@[simp]
theorem positions_zero :
  positions 0 = ∅
  := by
  ext i
  simp [positions]

theorem and_eq_right :
  a &&& b = b ↔ positions b ⊆ positions a
  := by
  rw [← positions_injective.eq_iff, positions_and, Set.inter_eq_right]

theorem or_eq_left :
  a ||| b = a ↔ positions b ⊆ positions a
  := by
  rw [← positions_injective.eq_iff, positions_or, Set.union_eq_left]

theorem contains_iff :
  contains a b = true ↔ positions b ⊆ positions a
  := by
  rw [contains, beq_iff_eq, and_eq_right]

theorem intersects_iff :
  intersects a b = true ↔ (positions a ∩ positions b).Nonempty
  := by
  rw [intersects, bne_iff_ne, ← positions_injective.ne_iff, positions_and, positions_zero,
    Set.nonempty_iff_ne_empty]

/-! ### Names -/

/-- A catalogue names bits of a number by different names, which have no separator in them. -/
structure Lawful (separator : Char) (catalogue : List NamedFlag) : Prop where
  fits : ∀ f ∈ catalogue, f.position < 64
  distinct : (catalogue.map NamedFlag.name).Nodup
  written : ∀ f ∈ catalogue, f.name ≠ "" ∧ separator ∉ f.name.toList

theorem positions_mask (h : f.position < 64) :
  positions f.mask = {f.position}
  := by
  have hmask : f.mask.toNat = 2 ^ f.position := by
    have hlt : 2 ^ f.position < 2 ^ 64 := Nat.pow_lt_pow_right (by decide) h
    rw [NamedFlag.mask, Nat.one_shiftLeft]
    exact UInt64.toNat_ofNat_of_lt hlt
  ext i
  simp [positions, hmask, Nat.testBit_two_pow, eq_comm]

variable {separator : Char} (lawful : Lawful separator catalogue)

include lawful

theorem Lawful.contains_mask (hf : f ∈ catalogue) :
  contains a f.mask = true ↔ f.position ∈ positions a
  := by
  rw [contains_iff, positions_mask (lawful.fits f hf), Set.singleton_subset_iff]

theorem Lawful.mem_names :
  n ∈ names catalogue a ↔ ∃ f ∈ catalogue, f.name = n ∧ f.position ∈ positions a
  := by
  simp only [names, List.mem_map, List.mem_filter]
  constructor
  · rintro ⟨f, ⟨hf, hcontains⟩, rfl⟩
    exact ⟨f, hf, rfl, (lawful.contains_mask hf).mp hcontains⟩
  · rintro ⟨f, hf, rfl, hposition⟩
    exact ⟨f, ⟨hf, (lawful.contains_mask hf).mpr hposition⟩, rfl⟩

/-- A flag is in a set exactly if its name is shown. -/
theorem Lawful.name_mem_names (hf : f ∈ catalogue) :
  f.name ∈ names catalogue a ↔ f.position ∈ positions a
  := by
  rw [lawful.mem_names]
  constructor
  · rintro ⟨g, hg, hname, hposition⟩
    rwa [← List.inj_on_of_nodup_map lawful.distinct hg hf hname]
  · exact fun hposition => ⟨f, hf, rfl, hposition⟩

/-- The names of a set are those of the catalogue whose flags are in the set. -/
theorem Lawful.names_eq_filter (p : String → Prop) [DecidablePred p]
    (hp : ∀ f ∈ catalogue, p f.name ↔ f.position ∈ positions a) :
  names catalogue a = (catalogue.map NamedFlag.name).filter fun n => p n
  := by
  rw [names, List.filter_map]
  congr 1
  apply List.filter_congr
  intro f hf
  rw [Bool.eq_iff_iff, lawful.contains_mask hf, Function.comp_apply, decide_eq_true_iff, hp f hf]

/-- A union shows the names that one of the sets shows, in the order of the catalogue. -/
theorem Lawful.names_or (a b : UInt64) :
  names catalogue (a ||| b)
    = (catalogue.map NamedFlag.name).filter
        fun n => n ∈ names catalogue a ∨ n ∈ names catalogue b
  := by
  apply lawful.names_eq_filter
  intro f hf
  rw [lawful.name_mem_names hf, lawful.name_mem_names hf, positions_or, Set.mem_union]

theorem Lawful.names_eq_iff :
  names catalogue a = names catalogue b
    ↔ ∀ f ∈ catalogue, f.position ∈ positions a ↔ f.position ∈ positions b
  := by
  constructor
  · intro h f hf
    rw [← lawful.name_mem_names hf, h, lawful.name_mem_names hf]
  · intro h
    rw [lawful.names_eq_filter (· ∈ names catalogue b)]
    · exact (lawful.names_eq_filter _ fun f hf => lawful.name_mem_names hf).symm
    · intro f hf
      rw [lawful.name_mem_names hf, h f hf]

/-! ### Texts -/

/-- The names between the separators of a text. -/
def namesOf (separator : Char) (text : String) : List String :=
  ((text.split separator).toList.map (·.copy)).filter (· ≠ "")

/-- A text of names is read back, also if it has no names. -/
theorem Lawful.namesOf_text (a : UInt64) :
  namesOf separator ((String.singleton separator).intercalate (names catalogue a))
    = names catalogue a
  := by
  have hwritten : ∀ n ∈ names catalogue a, n ≠ "" ∧ separator ∉ n.toList := by
    intro n hn
    obtain ⟨f, hf, rfl, -⟩ := lawful.mem_names.mp hn
    exact lawful.written f hf
  rw [namesOf, String.toList_split_intercalate fun n hn => (hwritten n hn).2]
  split
  case isTrue hempty => simp [hempty]
  case isFalse =>
      apply List.filter_eq_self.mpr
      intro n hn
      simpa using (hwritten n hn).1

/-- Two sets are shown alike exactly if they agree on every bit that has a name. -/
theorem Lawful.text_eq_iff :
  (String.singleton separator).intercalate (names catalogue a)
      = (String.singleton separator).intercalate (names catalogue b)
    ↔ ∀ f ∈ catalogue, f.position ∈ positions a ↔ f.position ∈ positions b
  := by
  rw [← lawful.names_eq_iff]
  constructor
  · intro h
    rw [← lawful.namesOf_text a, h, lawful.namesOf_text b]
  · exact congrArg _

omit lawful

/-! ### Types of sets -/

variable {S : Type} [OrOp S] [AndOp S]

/-- The laws of a type of sets of flags, whose sets are made of numbers and read as numbers. -/
structure Faithful (ofBits : UInt64 → S) (bits : S → UInt64) (contains : S → S → Bool)
    (names : S → List String) (text : S → String) (catalogue : List NamedFlag) : Prop where
  /-- All bits of a number are kept, with or without a name. -/
  bits_ofBits : ∀ x, bits (ofBits x) = x
  /-- All bits are kept in a union. -/
  bits_or : ∀ a b, positions (bits (a ||| b)) = positions (bits a) ∪ positions (bits b)
  bits_and : ∀ a b, positions (bits (a &&& b)) = positions (bits a) ∩ positions (bits b)
  contains_iff : ∀ a b, contains a b = true ↔ positions (bits b) ⊆ positions (bits a)
  contains_iff_or : ∀ a b, contains a b = true ↔ a ||| b = a
  contains_iff_and : ∀ a b, contains a b = true ↔ a &&& b = b
  /-- A set shows the names of its flags. -/
  mem_names : ∀ a n,
    n ∈ names a ↔ ∃ f ∈ catalogue, f.name = n ∧ f.position ∈ positions (bits a)
  /-- A union shows the names that one of the sets shows, in the order of the catalogue. -/
  names_or : ∀ a b,
    names (a ||| b) = (catalogue.map NamedFlag.name).filter fun n => n ∈ names a ∨ n ∈ names b
  /-- Two sets are shown alike exactly if they agree on every bit that has a name. -/
  text_eq_iff : ∀ a b, text a = text b
    ↔ ∀ f ∈ catalogue, f.position ∈ positions (bits a) ↔ f.position ∈ positions (bits b)

/-- A type of sets has the laws if its operations are those of the numbers. -/
theorem Lawful.faithful {separator : Char} (lawful : Lawful separator catalogue)
    {ofBits : UInt64 → S} {bits : S → UInt64} {contains : S → S → Bool}
    {names : S → List String} {text : S → String}
    (hofBits : ∀ x, bits (ofBits x) = x) (hinjective : Function.Injective bits)
    (hor : ∀ a b, bits (a ||| b) = bits a ||| bits b)
    (hand : ∀ a b, bits (a &&& b) = bits a &&& bits b)
    (hcontains : ∀ a b, contains a b = FlagSet.contains (bits a) (bits b))
    (hnames : ∀ a, names a = FlagSet.names catalogue (bits a))
    (htext : ∀ a, text a = (String.singleton separator).intercalate (names a)) :
  Faithful ofBits bits contains names text catalogue where
  bits_ofBits := hofBits
  bits_or a b := by rw [hor, positions_or]
  bits_and a b := by rw [hand, positions_and]
  contains_iff a b := by rw [hcontains, FlagSet.contains_iff]
  contains_iff_or a b := by
    rw [hcontains, FlagSet.contains_iff, ← or_eq_left, ← hor, hinjective.eq_iff]
  contains_iff_and a b := by
    rw [hcontains, FlagSet.contains_iff, ← and_eq_right, ← hand, hinjective.eq_iff]
  mem_names a n := by rw [hnames, lawful.mem_names]
  names_or a b := by simp only [hnames, hor, lawful.names_or]
  text_eq_iff a b := by rw [htext, htext, hnames, hnames, lawful.text_eq_iff]

end FlagSet

open FlagSet

/-! ### Roles and properties -/

namespace Roles

theorem lawful_catalogue :
  Lawful ',' catalogue where
  fits := by decide
  distinct := by decide
  written := by decide

theorem bits_injective :
  Function.Injective bits
  := by
  rintro ⟨a⟩ ⟨b⟩ h
  exact congrArg Roles.mk h

theorem faithful :
  Faithful Roles.mk bits contains names text catalogue
  := lawful_catalogue.faithful (fun _ => rfl) bits_injective (fun _ _ => rfl) (fun _ _ => rfl)
    (fun _ _ => rfl) (fun _ => rfl) (fun _ => rfl)

/-- A bit without a name is not shown. -/
example : (⟨0x4000000000002024⟩ : Roles).text = "ref,call,calledBy" := by decide

theorem intersects_iff_isEmpty (a b : Roles) :
  a.intersects b = true ↔ (a &&& b).isEmpty = false
  := (Bool.not_eq_true' _).to_iff

/-- Sets with the same bits are the same. -/
theorem ext_positions {a b : Roles} (h : positions a.bits = positions b.bits) :
  a = b
  := bits_injective (positions_injective h)

theorem positions_relational :
  positions relational.bits = Set.Icc 9 18
  := by
  have htestBit : ∀ i, Nat.testBit 0x7fe00 i = decide (9 ≤ i ∧ i ≤ 18) := by
    intro i
    rcases Nat.lt_or_ge i 19 with hi | hi
    · have hlow : ∀ i < 19, Nat.testBit 0x7fe00 i = decide (9 ≤ i ∧ i ≤ 18) := by decide
      exact hlow i hi
    · have hout : ¬ (9 ≤ i ∧ i ≤ 18) := by omega
      rw [decide_eq_false hout]
      apply Nat.testBit_lt_two_pow
      exact lt_of_lt_of_le (by decide) (Nat.pow_le_pow_right (by decide) hi)
  ext i
  exact (Bool.eq_iff_iff.mp (htestBit i)).trans decide_eq_true_iff

theorem positions_relations (a : Roles) :
  positions a.relations.bits = positions a.bits ∩ Set.Icc 9 18
  := by
  rw [← positions_relational]
  exact positions_and _ _

theorem relations_or (a b : Roles) :
  (a ||| b).relations = a.relations ||| b.relations
  := by
  apply ext_positions
  simp only [positions_relations, faithful.bits_or, Set.union_inter_distrib_right]

theorem relations_and (a b : Roles) :
  (a &&& b).relations = a.relations &&& b.relations
  := by
  apply ext_positions
  simp only [positions_relations, faithful.bits_and]
  apply Set.inter_inter_distrib_right

theorem relations_relations (a : Roles) :
  a.relations.relations = a.relations
  := by
  apply ext_positions
  rw [positions_relations, positions_relations, Set.inter_assoc, Set.inter_self]

end Roles

namespace Properties

theorem lawful_catalogue :
  Lawful '|' catalogue where
  fits := by decide
  distinct := by decide
  written := by decide

theorem bits_injective :
  Function.Injective bits
  := by
  rintro ⟨a⟩ ⟨b⟩ h
  exact congrArg Properties.mk h

theorem faithful :
  Faithful Properties.mk bits contains names text catalogue
  := lawful_catalogue.faithful (fun _ => rfl) bits_injective (fun _ _ => rfl) (fun _ _ => rfl)
    (fun _ _ => rfl) (fun _ => rfl) (fun _ => rfl)

end Properties

/-- Sets of roles and sets of properties behave as sets of bits, and what is shown of them says
which of their named bits they have and nothing else. Two sets of roles intersect exactly if what
they have in common is not empty. The relational roles are those of ten bits in a row; they are
taken of unions and of intersections part by part, and once for all. -/
theorem FlagSet.roles_properties_faithful :
  Faithful Roles.mk Roles.bits Roles.contains Roles.names Roles.text Roles.catalogue
    ∧ Faithful Properties.mk Properties.bits Properties.contains Properties.names Properties.text
        Properties.catalogue
    ∧ (∀ a b : Roles, a.intersects b = true ↔ (a &&& b).isEmpty = false)
    ∧ (∀ a b : Roles, a.intersects b = true ↔ (positions a.bits ∩ positions b.bits).Nonempty)
    ∧ (∀ a : Roles, positions a.relations.bits = positions a.bits ∩ Set.Icc 9 18)
    ∧ (∀ a b : Roles, (a ||| b).relations = a.relations ||| b.relations)
    ∧ (∀ a b : Roles, (a &&& b).relations = a.relations &&& b.relations)
    ∧ ∀ a : Roles, a.relations.relations = a.relations
  := ⟨Roles.faithful, Properties.faithful, Roles.intersects_iff_isEmpty, fun _ _ => intersects_iff,
    Roles.positions_relations, Roles.relations_or, Roles.relations_and, Roles.relations_relations⟩

end SymbolIndex
