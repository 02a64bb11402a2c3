import Mathlib.Data.List.Nodup
import SymbolIndex.Json.Codec
import SymbolIndex.Proofs.Json.Printed

/-!
# Codecs that read what they write

A lawful codec reads each value back from what it has written, and what it writes can be printed.
Texts, flags and integers of every size have lawful codecs. Lists and records have one if their
parts do, and so have values that may be absent, as long as nothing that is there is written as
null.
-/

namespace SymbolIndex.Codec

variable {α β : Type}

/-- What the codec writes can be printed, and is read back. -/
structure Lawful (c : Codec α) : Prop where
  plain : ∀ a, (c.encode a).Plain
  decode_encode : ∀ a, c.decode (c.encode a) = some a

/-! ### Simple values -/

@[simp] theorem text_lawful :
  text.Lawful
  := ⟨.text, fun _ => rfl⟩

@[simp] theorem flag_lawful :
  flag.Lawful
  := ⟨.bool, fun _ => rfl⟩

@[simp] theorem uint32_lawful :
  uint32.Lawful
  := by
  refine ⟨fun n => .integer false n.toNat, fun n => ?_⟩
  have hbelow : decodeBelow UInt32.size (.natural n.toNat) = some n.toNat :=
    if_pos n.toNat_lt
  simp only [uint32, hbelow, Option.map_some, UInt32.ofNat_toNat]

@[simp] theorem uint64_lawful :
  uint64.Lawful
  := by
  refine ⟨fun n => .integer false n.toNat, fun n => ?_⟩
  have hbelow : decodeBelow UInt64.size (.natural n.toNat) = some n.toNat :=
    if_pos n.toNat_lt
  simp only [uint64, hbelow, Option.map_some, UInt64.ofNat_toNat]

@[simp] theorem int64_lawful :
  int64.Lawful
  := by
  refine ⟨fun n => .integer _ _, fun n => ?_⟩
  have hlow := n.le_toInt
  have hhigh := n.toInt_lt
  have hbound : (int64Bound : Int) = 2 ^ 63 := rfl
  have hsame := n.ofInt_toInt
  simp only [int64]
  have hsign : n < 0 ↔ n.toInt < 0 := Int64.lt_iff_toInt_lt
  by_cases hn : n < 0
  · have hnegative : n.toInt < 0 := hsign.mp hn
    have hmagnitude : -(n.toInt.natAbs : Int) = n.toInt := by omega
    simp only [hn, decide_true]
    rw [if_pos (by omega), hmagnitude, hsame]
  · have hnonnegative : ¬ n.toInt < 0 := mt hsign.mpr hn
    have hmagnitude : (n.toInt.natAbs : Int) = n.toInt := by omega
    simp only [hn, decide_false]
    rw [if_pos (by omega), hmagnitude, hsame]

/-! ### Values of values -/

theorem optional_lawful {c : Codec α} (hc : c.Lawful) (hnull : ∀ a, c.encode a ≠ .null) :
  c.optional.Lawful
  := by
  constructor
  · intro a
    cases a with
    | none => exact .null
    | some a => exact hc.plain a
  · intro a
    cases a with
    | none => rfl
    | some a =>
        have hsome : ∀ j, j ≠ .null → c.optional.decode j = (c.decode j).map some := by
          intro j hj
          cases j with
          | null => exact absurd rfl hj
          | _ => rfl
        exact (hsome _ (hnull a)).trans (congrArg (Option.map some) (hc.decode_encode a))

@[simp] theorem list_lawful {c : Codec α} (hc : c.Lawful) :
  c.list.Lawful
  := by
  constructor
  · intro as
    apply Json.Plain.array
    intro j hj
    obtain ⟨a, -, rfl⟩ := List.mem_map.mp hj
    exact hc.plain a
  · intro as
    simp only [list]
    induction as with
    | nil => rfl
    | cons a as ih => simp [hc.decode_encode, ih]

/-! ### Records -/

/-- Among fields of different names each is found by its name. -/
theorem find?_name {fields : List (Field α)} (hnames : (fields.map Field.name).Nodup)
    {f : Field α} (hf : f ∈ fields) :
  fields.find? (fun g => g.name == f.name) = some f
  := by
  induction fields with
  | nil => cases hf
  | cons g fields ih =>
      obtain ⟨hg, hnames⟩ := List.nodup_cons.mp hnames
      rcases List.mem_cons.mp hf with rfl | hf
      · exact List.find?_cons_of_pos (beq_self_eq_true f.name)
      · have hne : g.name ≠ f.name := fun h => hg (h ▸ List.mem_map_of_mem hf)
        rw [List.find?_cons_of_neg (by simpa using hne)]
        exact ih hnames hf

/-- The members that a record is written as change a record one field after the other. -/
theorem readMembers_fields {all fields : List (Field α)} {met : List String}
    (hfound : ∀ f ∈ fields, all.find? (fun g => g.name == f.name) = some f)
    (hnew : ∀ f ∈ fields, f.name ∉ met) (hnames : (fields.map Field.name).Nodup) (a b : α) :
  readMembers all met (fields.map fun f => (some f.name, f.write a)) b
    = fields.foldlM (fun b f => f.read (f.write a) b) b
  := by
  induction fields generalizing met b with
  | nil => rfl
  | cons f fields ih =>
      obtain ⟨hf, hnames⟩ := List.nodup_cons.mp hnames
      have hrest : ∀ g ∈ fields, g.name ∉ f.name :: met := by
        intro g hg hmem
        rcases List.mem_cons.mp hmem with heq | hmem
        · exact hf (heq ▸ List.mem_map_of_mem hg)
        · exact hnew g (List.mem_cons_of_mem _ hg) hmem
      rw [List.map_cons, readMembers]
      simp only [hfound f List.mem_cons_self]
      rw [if_neg (hnew f List.mem_cons_self), List.foldlM_cons]
      apply congrArg
      funext b
      exact ih (fun g hg => hfound g (List.mem_cons_of_mem _ hg)) hrest hnames b

@[simp] theorem field_name (c : Codec β) (name : String) (get : α → β) (set : β → α → α) :
  (c.field name get set).name = name
  := rfl

/-- Each field is read from what it has written, and changes any record to have its value. -/
@[simp] theorem field_read_write {c : Codec β} (hc : c.Lawful) (name : String) (get : α → β)
    (set : β → α → α) (a b : α) :
  (c.field name get set).read ((c.field name get set).write a) b = some (set (get a) b)
  := by
  simp only [field, hc.decode_encode, Option.map_some]

@[simp] theorem field_plain {c : Codec β} (hc : c.Lawful) (name : String) (get : α → β)
    (set : β → α → α) (a : α) :
  ((c.field name get set).write a).Plain
  := hc.plain (get a)

/-- A record type whose fields have different names, and whose values are made of the values of
all fields. -/
theorem record_lawful {fields : List (Field α)} {default : α}
    (hplain : ∀ f ∈ fields, ∀ a, (f.write a).Plain) (hnames : (fields.map Field.name).Nodup)
    (hread : ∀ a, fields.foldlM (fun b f => f.read (f.write a) b) default = some a) :
  (record fields default).Lawful
  := by
  constructor
  · intro a
    apply Json.Plain.fields
    intro m hm
    obtain ⟨f, hf, rfl⟩ := List.mem_map.mp hm
    exact hplain f hf a
  · intro a
    simp only [record, Json.fields, List.map_map]
    rw [← hread a]
    exact readMembers_fields (fun f hf => find?_name hnames hf) (fun _ _ => List.not_mem_nil)
      hnames a default

end SymbolIndex.Codec
