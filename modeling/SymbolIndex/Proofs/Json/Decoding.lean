import SymbolIndex.Proofs.Json.Codec
import SymbolIndex.Proofs.Json.Forms

/-!
# Codecs that read descriptions

A codec obeys a form if it writes a description of each value, and reads the value from all of its
descriptions and nothing from what has a fault. A minus sign before a zero is a fault although the
number is zero.
-/

namespace SymbolIndex.Codec

open Json

variable {α β : Type}

structure Obeys (c : Codec β) (F : Form β) : Prop where
  writes : ∀ b, F.Says (c.encode b) b
  reads : ∀ {j b}, F.Says j b → ¬ F.Has .signedZero j → c.decode j = some b
  refuses : ∀ {fault j}, F.Has fault j → c.decode j = none

/-! ### Simple values -/

theorem text_obeys :
  text.Obeys .text
  where
  writes _ := rfl
  reads := by
    rintro j s rfl -
    rfl
  refuses := by
    rintro fault j ⟨⟩ <;> rfl

theorem flag_obeys :
  flag.Obeys .flag
  where
  writes _ := rfl
  reads := by
    rintro j b rfl -
    rfl
  refuses := by
    rintro fault j ⟨⟩ <;> rfl

theorem optionalText_obeys :
  text.optional.Obeys .optionalText
  where
  writes s := by cases s <;> rfl
  reads := by
    rintro j s rfl -
    cases s <;> rfl
  refuses := by
    rintro fault j h
    cases h with
    | null h => cases h
    | _ => rfl

/-- A number that has no sign before a zero is read if it has few enough bits. -/
theorem decodeBelow_signed {bits value magnitude : Nat} {negative : Bool}
    (h : (value : Int) = signed negative magnitude) (hvalue : value < 2 ^ bits)
    (hzero : ¬ Wrong false (Unsigned bits) .signedZero (.integer negative magnitude)) :
  decodeBelow (2 ^ bits) (.integer negative magnitude) = some value
  := by
  cases negative with
  | false =>
      obtain rfl : value = magnitude := Int.ofNat_inj.mp h
      exact if_pos hvalue
  | true =>
      have hnegative : (value : Int) = -magnitude := h
      obtain rfl : magnitude = 0 := by omega
      exact absurd .signedZero hzero

theorem decodeBelow_wrong {bits : Nat} {fault : Fault} {j : Json}
    (h : Wrong false (Unsigned bits) fault j) :
  decodeBelow (2 ^ bits) j = none
  := by
  cases h with
  | @range negative magnitude h =>
      cases negative with
      | false =>
          apply if_neg
          intro hbelow
          have hbits : (magnitude : Int) < 2 ^ bits := by exact_mod_cast hbelow
          exact h ⟨Int.natCast_nonneg magnitude, hbits⟩
      | true => rfl
  | _ => rfl

theorem uint32_obeys :
  uint32.Obeys .uint32
  where
  writes n := ⟨false, n.toNat, rfl, rfl⟩
  reads := by
    rintro j n ⟨negative, magnitude, rfl, h⟩ hzero
    have hread : decodeBelow UInt32.size _ = _ := decodeBelow_signed h n.toNat_lt hzero
    simp only [uint32, hread, Option.map_some, UInt32.ofNat_toNat]
  refuses h := congrArg (Option.map UInt32.ofNat) (decodeBelow_wrong h)

theorem uint64_obeys :
  uint64.Obeys .uint64
  where
  writes n := ⟨false, n.toNat, rfl, rfl⟩
  reads := by
    rintro j n ⟨negative, magnitude, rfl, h⟩ hzero
    have hread : decodeBelow UInt64.size _ = _ := decodeBelow_signed h n.toNat_lt hzero
    simp only [uint64, hread, Option.map_some, UInt64.ofNat_toNat]
  refuses h := congrArg (Option.map UInt64.ofNat) (decodeBelow_wrong h)

theorem int64_obeys :
  int64.Obeys .int64
  where
  writes n := by
    refine ⟨n < 0, n.toInt.natAbs, rfl, ?_⟩
    have hsign : n < 0 ↔ n.toInt < 0 := Int64.lt_iff_toInt_lt
    by_cases hn : n < 0
    · have hnegative := hsign.mp hn
      have hmagnitude : n.toInt = -(n.toInt.natAbs : Int) := by omega
      rwa [decide_eq_true hn]
    · have hnonnegative := mt hsign.mpr hn
      have hmagnitude : n.toInt = (n.toInt.natAbs : Int) := by omega
      rwa [decide_eq_false hn]
  reads := by
    rintro j n ⟨negative, magnitude, rfl, h⟩ hzero
    have hlow := n.le_toInt
    have hhigh := n.toInt_lt
    have hbound : (int64Bound : Int) = 2 ^ 63 := rfl
    cases negative with
    | false =>
        have hvalue : (magnitude : Int) = n.toInt := h.symm
        have hbelow : magnitude < int64Bound := by omega
        simp only [int64, hbelow, ↓reduceIte, hvalue, Int64.ofInt_toInt]
    | true =>
        have hvalue : -(magnitude : Int) = n.toInt := h.symm
        have hpositive : 0 < magnitude := by
          apply Nat.pos_of_ne_zero
          rintro rfl
          exact hzero .signedZero
        have hwithin : 0 < magnitude ∧ magnitude ≤ int64Bound := by omega
        simp only [int64, hwithin, ↓reduceIte, hvalue, Int64.ofInt_toInt, and_self]
  refuses := by
    rintro fault j h
    have hbound : (int64Bound : Int) = 2 ^ 63 := rfl
    cases h with
    | @range negative magnitude h =>
        cases negative with
        | false => exact if_neg fun hbelow => h (by simp only [signed, Signed]; omega)
        | true => exact if_neg fun hwithin => h (by simp only [signed, Signed]; omega)
    | _ => rfl

/-! ### Lists -/

theorem mapM_decode {c : Codec β} {F : Form β} (hc : c.Obeys F) {items : List Json} {bs : List β}
    (h : List.Forall₂ F.Says items bs) (hzero : ∀ i ∈ items, ¬ F.Has .signedZero i) :
  items.mapM c.decode = some bs
  := by
  induction h with
  | nil => rfl
  | cons hb _ ih =>
      obtain ⟨hi, hitems⟩ := List.forall_mem_cons.mp hzero
      rw [List.mapM_cons, hc.reads hb hi, ih hitems]
      rfl

theorem mapM_eq_none {f : α → Option β} {items : List α} {i : α} (hi : i ∈ items)
    (h : f i = none) :
  items.mapM f = none
  := by
  induction items with
  | nil => cases hi
  | cons k items ih =>
      rw [List.mapM_cons]
      rcases List.mem_cons.mp hi with rfl | hi
      · rw [h]
        rfl
      · rw [ih hi]
        cases f k <;> rfl

theorem list_obeys {c : Codec β} {F : Form β} (hc : c.Obeys F) :
  c.list.Obeys F.list
  where
  writes bs := by
    refine ⟨_, rfl, ?_⟩
    rw [List.forall₂_map_left_iff, List.forall₂_same]
    exact fun b _ => hc.writes b
  reads := by
    rintro j bs ⟨items, rfl, h⟩ hzero
    exact mapM_decode hc h fun i hi hhas => hzero (.inr ⟨items, rfl, i, hi, hhas⟩)
  refuses := by
    rintro fault j (h | ⟨items, rfl, i, hi, h⟩)
    · cases h <;> rfl
    · exact mapM_eq_none hi (hc.refuses h)

/-! ### Records -/

/-- Reading the value as the field makes any record agree with the given one on that field, and
changes no other field. -/
def Puts (fields : List (Field α)) (f : Field α) (j : Json) (a : α) : Prop :=
  ∀ b, ∃ c, f.read j b = some c ∧ f.write c = f.write a
    ∧ ∀ g ∈ fields, g.name ≠ f.name → g.write c = g.write b

/-- A field of a record type reads the attribute. -/
structure Minds (fields : List (Field α)) (usual : α) (f : Field α) (x : Attribute α) : Prop where
  name : f.name = x.name
  writes : ∀ a, x.Says (f.write a) a
  missing : ∀ {a}, x.Usual a → f.write a = f.write usual
  reads : ∀ {j a}, x.Says j a → ¬ x.Has .signedZero j → Puts fields f j a
  refuses : ∀ {fault j}, x.Has fault j → ∀ b, f.read j b = none

variable {fields : List (Field α)} {attributes : List (Attribute α)} {usual : α}
    {members : List (Option String × Json)} {met : List String}

/-- A record is made of the values of its fields. -/
theorem Lawful.encode_inj {c : Codec α} (hc : c.Lawful) {a b : α} (h : c.encode a = c.encode b) :
  a = b
  := by
  have hread := hc.decode_encode a
  rw [h, hc.decode_encode b] at hread
  exact (Option.some.inj hread).symm

theorem times_cons_self (k : String) (j : Json) (members : List (Option String × Json)) :
  times k ((some k, j) :: members) = times k members + 1
  := List.countP_cons_of_pos (beq_self_eq_true (some k))

theorem times_cons_of_ne {k name : String} (h : k ≠ name) (j : Json)
    (members : List (Option String × Json)) :
  times name ((some k, j) :: members) = times name members
  := List.countP_cons_of_neg (by simpa using h)

/-- A member that is no field is passed over. -/
theorem readMembers_unknown {k : String} (hk : ∀ f ∈ fields, f.name ≠ k) (j : Json) (b : α) :
  readMembers fields met ((some k, j) :: members) b = readMembers fields met members b
  := by
  have hfind : fields.find? (fun f => f.name == k) = none := by simpa using hk
  simp only [readMembers, hfind]

/-- A member that is a field is read if it has not been met. -/
theorem readMembers_known (hnames : (fields.map Field.name).Nodup) {f : Field α} (hf : f ∈ fields)
    (j : Json) (b : α) :
  readMembers fields met ((some f.name, j) :: members) b
    = if f.name ∈ met then none
      else (f.read j b).bind (readMembers fields (f.name :: met) members)
  := by
  simp only [readMembers, find?_name hnames hf]

/-- A name is that of no field or that of a field. -/
theorem unknown_or_known (fields : List (Field α)) (k : String) :
  (∀ f ∈ fields, f.name ≠ k) ∨ ∃ f ∈ fields, f.name = k
  := by
  by_cases h : ∃ f ∈ fields, f.name = k
  · exact .inr h
  · exact .inl fun f hf heq => h ⟨f, hf, heq⟩

/-- What the members that describe a record are read as agrees with it on each field that is there,
and with the record before on any other. A field has been met or is still to come, not both. -/
theorem readMembers_describes {a : α} (hnames : (fields.map Field.name).Nodup)
    (hvalues : ∀ f ∈ fields, ∀ j, (some f.name, j) ∈ members → Puts fields f j a)
    (hkeys : ∀ m ∈ members, m.1 ≠ none)
    (honce : ∀ f ∈ fields, met.count f.name + times f.name members ≤ 1) (b : α) :
  ∃ b', readMembers fields met members b = some b' ∧ ∀ f ∈ fields,
    f.write b' = if times f.name members = 0 then f.write b else f.write a
  := by
  induction members generalizing met b with
  | nil => exact ⟨b, rfl, fun _ _ => rfl⟩
  | cons m members ih =>
      have hrest (met : List String) := @ih met fun f hf j hj =>
        hvalues f hf j (List.mem_cons_of_mem m hj)
      obtain ⟨hkey, htexts⟩ := List.forall_mem_cons.mp hkeys
      obtain ⟨_ | k, j⟩ := m
      · exact absurd rfl hkey
      rcases unknown_or_known fields k with hk | ⟨f, hf, rfl⟩
      · have htimes : ∀ f ∈ fields, times f.name ((some k, j) :: members) = times f.name members :=
          fun f hf => times_cons_of_ne (hk f hf).symm j members
        obtain ⟨b', hread, hwrites⟩ := hrest met htexts (fun f hf => htimes f hf ▸ honce f hf) b
        refine ⟨b', (readMembers_unknown hk j b).trans hread, fun f hf => ?_⟩
        rw [htimes f hf, hwrites f hf]
      · obtain ⟨c, hc, hwrite, hothers⟩ := hvalues f hf j List.mem_cons_self b
        have hself := times_cons_self f.name j members
        have hother : ∀ g : Field α, g.name ≠ f.name →
            times g.name ((some f.name, j) :: members) = times g.name members :=
          fun g h => times_cons_of_ne h.symm j members
        -- The field is still to come here, so it has not been met and does not come again.
        have hfirst := honce f hf
        have hmet : f.name ∉ met := by
          rw [← List.count_eq_zero]
          omega
        have hlater : ∀ g ∈ fields,
            (f.name :: met).count g.name + times g.name members ≤ 1 := by
          intro g hg
          by_cases hname : g.name = f.name
          · rw [hname, List.count_cons_self]
            omega
          · rw [List.count_cons_of_ne (Ne.symm hname), ← hother g hname]
            exact honce g hg
        obtain ⟨b', hread, hwrites⟩ := hrest _ htexts hlater c
        refine ⟨b', ?_, fun g hg => ?_⟩
        · rw [readMembers_known hnames hf, if_neg hmet, hc]
          exact hread
        · rw [hwrites g hg]
          by_cases hname : g.name = f.name
          · obtain rfl := List.inj_on_of_nodup_map hnames hg hf hname
            rw [hself, if_neg (Nat.succ_ne_zero _), hwrite, ite_self]
          · rw [hother g hname, hothers g hg hname]

/-- Of members that are read, each field stands at most once and is read. -/
theorem readMembers_some (hnames : (fields.map Field.name).Nodup) {f : Field α} (hf : f ∈ fields)
    {b b' : α} (h : readMembers fields met members b = some b') :
  (f.name ∈ met → times f.name members = 0) ∧ times f.name members ≤ 1
    ∧ ∀ j, (some f.name, j) ∈ members → ∃ c, (f.read j c).isSome
  := by
  induction members generalizing met b with
  | nil => exact ⟨fun _ => rfl, Nat.zero_le 1, nofun⟩
  | cons m members ih =>
      obtain ⟨_ | k, j⟩ := m
      · cases h
      rcases unknown_or_known fields k with hk | ⟨g, hg, rfl⟩
      · rw [readMembers_unknown hk] at h
        rw [times_cons_of_ne (hk f hf).symm]
        obtain ⟨hmet, honce, hvalues⟩ := ih h
        refine ⟨hmet, honce, fun i hi => hvalues i ?_⟩
        simpa [hk f hf] using hi
      · rw [readMembers_known hnames hg] at h
        split at h
        case isTrue => cases h
        case isFalse hnew =>
            obtain ⟨c, hc, hrest⟩ := Option.bind_eq_some_iff.mp h
            obtain ⟨hmet, honce, hvalues⟩ := ih hrest
            by_cases hname : f.name = g.name
            · obtain rfl := List.inj_on_of_nodup_map hnames hf hg hname
              -- The field has been met now, and would not be read a second time.
              have hlast := hmet List.mem_cons_self
              rw [times_cons_self, hlast]
              refine ⟨fun h => absurd h hnew, Nat.le_refl 1, fun i hi => ?_⟩
              rcases List.mem_cons.mp hi with heq | hi
              · cases heq
                exact ⟨b, Option.isSome_of_eq_some hc⟩
              · exact hvalues i hi
            · rw [times_cons_of_ne (Ne.symm hname)]
              refine ⟨fun h => hmet (List.mem_cons_of_mem _ h), honce, fun i hi => hvalues i ?_⟩
              simpa [hname] using hi

/-- Of items that are read, each one is read as the field at its place. -/
theorem readItems_some {items : List Json} {b b' : α} (h : readItems fields items b = some b')
    {i : Nat} {f : Field α} {j : Json} (hf : fields[i]? = some f) (hj : items[i]? = some j) :
  ∃ c, (f.read j c).isSome
  := by
  induction items generalizing fields i b with
  | nil => cases hj
  | cons k items ih =>
      cases fields with
      | nil => cases hf
      | cons g fields =>
          obtain ⟨c, hc, hrest⟩ := Option.bind_eq_some_iff.mp h
          cases i with
          | zero =>
              cases hf
              cases hj
              exact ⟨b, Option.isSome_of_eq_some hc⟩
          | succ i => exact ih hrest hf hj

/-- The field at a place among all fields of a record type, and the attribute that it reads. What
it changes in a record is written at that place. -/
inductive Carries (fields : List (Field α)) (usual : α) : Field α × Nat → Attribute α → Prop where
  | mk {β : Type} {c : Codec β} {F : Form β} (hc : c.Obeys F) {name : String} {get : α → β}
      {set : β → α → α} {i : Nat}
      (hput : ∀ v b, fields.map (·.write (set v b)) = (fields.map (·.write b)).set i (c.encode v))
      (husual : get usual = F.usual) :
      Carries fields usual (c.field name get set, i) (F.named name get)

/-- What is written at each place after a change at one place. -/
theorem write_of_put {c : Codec β} {set : β → α → α} {i : Nat}
    (hput : ∀ v b, fields.map (·.write (set v b)) = (fields.map (·.write b)).set i (c.encode v))
    {k : Nat} {g : Field α} (hg : fields[k]? = some g) (v : β) (b : α) :
  g.write (set v b) = if i = k then c.encode v else g.write b
  := by
  have hlength : k < fields.length := (List.getElem?_eq_some_iff.mp hg).1
  have hplace := congrArg (fun written => written[k]?) (hput v b)
  simp only [List.getElem?_map, List.getElem?_set, List.length_map, hg, Option.map_some] at hplace
  split at hplace
  case isTrue heq =>
      rw [if_pos (heq ▸ hlength)] at hplace
      rw [if_pos heq]
      exact Option.some.inj hplace
  case isFalse hne =>
      rw [if_neg hne]
      exact Option.some.inj hplace

theorem Carries.minds {f : Field α} {i : Nat} {x : Attribute α}
    (h : Carries fields usual (f, i) x) (hf : fields[i]? = some f) :
  Minds fields usual f x
  := by
  cases h with
  | @mk _ c F hc name get set _ hput husual =>
      constructor
      case name => rfl
      case writes => exact fun a => hc.writes (get a)
      case missing =>
          intro a ha
          exact congrArg c.encode (ha.trans husual.symm)
      case reads =>
          intro j a hvalue hzero b
          refine ⟨set (get a) b, congrArg (Option.map _) (hc.reads hvalue hzero), ?_, ?_⟩
          · exact (write_of_put hput hf _ _).trans (if_pos rfl)
          · intro g hg hname
            obtain ⟨k, hk⟩ := List.getElem?_of_mem hg
            refine (write_of_put hput hk _ _).trans (if_neg ?_)
            rintro rfl
            exact hname (congrArg Field.name (Option.some.inj (hk.symm.trans hf)))
      case refuses =>
          intro fault j h b
          exact congrArg (Option.map _) (hc.refuses h)

/-- What stands at a place of the first list has to do with what stands there in the second. -/
theorem exists_of_getElem? {γ δ : Type} {R : γ → δ → Prop} {as : List γ} {bs : List δ}
    (h : List.Forall₂ R as bs) {i : Nat} {a : γ} (ha : as[i]? = some a) :
  ∃ b, bs[i]? = some b ∧ R a b
  := by
  induction h generalizing i with
  | nil => cases ha
  | cons hR _ ih =>
      cases i with
      | zero =>
          cases ha
          exact ⟨_, rfl, hR⟩
      | succ i => exact ih ha

section Places

variable (hfields : List.Forall₂ (Carries fields usual) fields.zipIdx attributes)
include hfields

theorem exists_attribute {f : Field α} (hf : f ∈ fields) :
  ∃ x ∈ attributes, Minds fields usual f x
  := by
  obtain ⟨i, hi⟩ := List.getElem?_of_mem hf
  have hplace : fields.zipIdx[i]? = some (f, i) := by simp [hi]
  obtain ⟨x, hx, hcarries⟩ := exists_of_getElem? hfields hplace
  exact ⟨x, List.mem_of_getElem? hx, hcarries.minds hi⟩

theorem exists_field {i : Nat} {x : Attribute α} (hx : attributes[i]? = some x) :
  ∃ f, fields[i]? = some f ∧ Minds fields usual f x
  := by
  obtain ⟨⟨f, k⟩, hplace, hcarries⟩ := exists_of_getElem? hfields.flip hx
  obtain ⟨hf, rfl⟩ : fields[i]? = some f ∧ i = k := by simpa using hplace
  exact ⟨f, hf, Carries.minds hcarries hf⟩

theorem exists_field_of_mem {x : Attribute α} (hx : x ∈ attributes) :
  ∃ f ∈ fields, Minds fields usual f x
  := by
  obtain ⟨i, hi⟩ := List.getElem?_of_mem hx
  obtain ⟨f, hf, hminds⟩ := exists_field hfields hi
  exact ⟨f, List.mem_of_getElem? hf, hminds⟩

end Places

section Records

variable (hnames : (fields.map Field.name).Nodup)
    (hfields : List.Forall₂ (Carries fields usual) fields.zipIdx attributes)
include hnames hfields

/-- What a record is written as describes it. -/
theorem describes_written (a : α) :
  Describes attributes (fields.map fun f => (some f.name, f.write a)) a
  where
  keys := by simp
  once := by
    intro x hx
    obtain ⟨f, hf, hminds⟩ := exists_field_of_mem hfields hx
    have hcount := List.nodup_iff_count_le_one.mp hnames x.name
    simp only [List.count, List.countP_map] at hcount
    simpa [times, List.countP_map, Function.comp_def] using hcount
  values := by
    intro x hx j hj
    obtain ⟨f, hf, hminds⟩ := exists_field_of_mem hfields hx
    obtain ⟨g, hg, heq⟩ := List.mem_map.mp hj
    obtain ⟨hname, rfl⟩ := Prod.mk.inj heq
    have hsame : g.name = f.name := (Option.some.inj hname).trans hminds.name.symm
    obtain rfl := List.inj_on_of_nodup_map hnames hg hf hsame
    exact hminds.writes a
  missing := by
    intro x hx hnone
    obtain ⟨f, hf, hminds⟩ := exists_field_of_mem hfields hx
    have hmem : (some f.name, f.write a) ∈ fields.map fun f => (some f.name, f.write a) :=
      List.mem_map_of_mem hf
    have hnot := List.countP_eq_zero.mp hnone _ hmem
    simp [hminds.name] at hnot

/-- A record is read from the members that describe it. -/
theorem readMembers_eq_some (hlawful : (record fields usual).Lawful) {a : α}
    (h : Describes attributes members a)
    (hzero : ¬ RecordHas attributes .signedZero (.object members)) :
  readMembers fields [] members usual = some a
  := by
  have hvalues : ∀ f ∈ fields, ∀ j, (some f.name, j) ∈ members → Puts fields f j a := by
    intro f hf j hj
    obtain ⟨x, hx, hminds⟩ := exists_attribute hfields hf
    rw [hminds.name] at hj
    exact hminds.reads (h.values x hx j hj) fun hhas => hzero (.member hx hj hhas)
  have honce : ∀ f ∈ fields, [].count f.name + times f.name members ≤ 1 := by
    intro f hf
    obtain ⟨x, hx, hminds⟩ := exists_attribute hfields hf
    simpa [hminds.name] using h.once x hx
  obtain ⟨b, hread, hwrite⟩ := readMembers_describes hnames hvalues h.keys honce usual
  have hsame : ∀ f ∈ fields, f.write b = f.write a := by
    intro f hf
    obtain ⟨x, hx, hminds⟩ := exists_attribute hfields hf
    rw [hwrite f hf]
    split
    case isTrue hmissing =>
        rw [hminds.name] at hmissing
        exact (hminds.missing (h.missing x hx hmissing)).symm
    case isFalse => rfl
  -- The records are equal because they are written alike.
  have hencode : (record fields usual).encode b = (record fields usual).encode a := by
    apply congrArg Json.fields
    apply List.map_congr_left
    intro f hf
    rw [hsame f hf]
  obtain rfl := hlawful.encode_inj hencode
  exact hread

/-- No record is read from what has a fault. -/
theorem decode_eq_none {fault : Fault} {j : Json} (h : RecordHas attributes fault j) :
  (record fields usual).decode j = none
  := by
  rw [Option.eq_none_iff_forall_ne_some]
  intro b hread
  cases h with
  | itself h => cases h <;> cases hread
  | repeated hx h =>
      obtain ⟨f, hf, hminds⟩ := exists_field_of_mem hfields hx
      obtain ⟨-, honce, -⟩ := readMembers_some hnames hf hread
      rw [hminds.name] at honce
      omega
  | member hx hj h =>
      obtain ⟨f, hf, hminds⟩ := exists_field_of_mem hfields hx
      obtain ⟨-, -, hvalues⟩ := readMembers_some hnames hf hread
      rw [hminds.name] at hvalues
      obtain ⟨c, hc⟩ := hvalues _ hj
      rw [hminds.refuses h c] at hc
      cases hc
  | item hx hj h =>
      obtain ⟨f, hf, hminds⟩ := exists_field hfields hx
      obtain ⟨c, hc⟩ := readItems_some hread hf hj
      rw [hminds.refuses h c] at hc
      cases hc

/-- A record type whose fields carry the attributes. -/
theorem record_obeys (hlawful : (record fields usual).Lawful) :
  (record fields usual).Obeys (Form.record attributes usual)
  where
  writes a := by
    refine ⟨_, rfl, ?_⟩
    rw [List.map_map]
    exact describes_written hnames hfields a
  reads := by
    rintro j a ⟨members, rfl, h⟩ hzero
    exact readMembers_eq_some hnames hfields hlawful h hzero
  refuses := decode_eq_none hnames hfields

end Records

end SymbolIndex.Codec
