import SymbolIndex.Json.Printer
import SymbolIndex.Proofs.Json.Reading

/-!
# Printed values are read back

A value without decimals in which each string is a text is what is read from its printed form, since
that is one of its written forms.
-/

namespace SymbolIndex.Json

/-- A value as it is printed. It has no decimals in it, and its strings are texts. -/
inductive Plain : Json → Prop where
  | null : Plain .null
  | bool (b : Bool) : Plain (.bool b)
  | integer (negative : Bool) (magnitude : Nat) : Plain (.integer negative magnitude)
  | text (s : String) : Plain (.text s)
  | array {items : List Json} (h : ∀ j ∈ items, Plain j) : Plain (.array items)
  | fields {members : List (String × Json)} (h : ∀ m ∈ members, Plain m.2) :
      Plain (.fields members)

theorem blanks_nil :
  Blanks []
  := nofun

theorem blanks_blank :
  Blanks [' ']
  := by simp [Blanks]

theorem blanks_newLine (depth : Nat) :
  Blanks (newLine depth)
  := by
  intro c hc
  rcases List.mem_cons.mp hc with rfl | hc
  · exact .inr (.inl rfl)
  · exact .inl (List.eq_of_mem_replicate hc)

/-! ### Strings -/

theorem textOfPieces_scalar (chars : List Char) :
  textOfPieces (chars.map .scalar) = some chars
  := by
  induction chars with
  | nil => rfl
  | cons c chars ih => rw [List.map_cons, textOfPieces, ih]; rfl

theorem hexDigit_digitChar {d : Nat} (hd : d < 16) :
  HexDigit (Nat.digitChar d) d
  := by
  have hall : ∀ d : Fin 16, smallHex[d.val]? = some (Nat.digitChar d.val) := by decide
  exact .inl (hall ⟨d, hd⟩)

/-- The code of a character below the blank is that character. -/
theorem pieceOfCode_toNat {c : Char} (hc : c < ' ') :
  pieceOfCode (((0 * 16 + 0) * 16 + c.toNat / 16) * 16 + c.toNat % 16) = .scalar c
  := by
  have hcode : ((0 * 16 + 0) * 16 + c.toNat / 16) * 16 + c.toNat % 16 = c.toNat := by omega
  have hlow : c.toNat < 32 := hc
  have hnone : ¬ (0xD800 ≤ c.toNat ∧ c.toNat < 0xE000) := by omega
  rw [hcode, pieceOfCode, if_neg hnone, Char.ofNat_toNat]

/-- A character is printed as a short escape, as its code, or as it is. -/
theorem pieceForm_printChar (c : Char) :
  PieceForm (printChar c) (.scalar c)
  := by
  simp only [printChar]
  -- Seven characters have short escapes, and the others below the blank have none.
  iterate 7
    split
    · subst c
      exact .short (by decide)
  split
  case isTrue hlow =>
      have hsmall : c.toNat < 32 := hlow
      have hform := PieceForm.code (hexDigit_digitChar (d := 0) (by decide))
        (hexDigit_digitChar (d := 0) (by decide))
        (hexDigit_digitChar (d := c.toNat / 16) (by omega))
        (hexDigit_digitChar (d := c.toNat % 16) (by omega))
      rwa [pieceOfCode_toNat hlow] at hform
  case isFalse hcontrol => exact .plain hcontrol ‹_› ‹_›

theorem stringForm_printString (s : String) :
  StringForm (printString (some s)) (some s)
  := by
  have hform := StringForm.mk (s.toList.map fun c => (printChar c, .scalar c))
    (List.forall_mem_map.mpr fun c _ => pieceForm_printChar c)
  rw [List.flatMap_map, List.map_map] at hform
  have hpieces := textOfPieces_scalar s.toList
  simp only [Function.comp_def] at hform
  rwa [hpieces, Option.map_some, String.ofList_toList] at hform

/-! ### Values -/

theorem printItems_eq (depth : Nat) (items : List Json) :
  printItems depth items
    = (items.map fun j => newLine depth ++ printAt depth j).flatMap (',' :: ·)
  := by
  induction items with
  | nil => rfl
  | cons j items ih => simp [printItems, ih]

/-- A member as it is printed. -/
def printedMember (depth : Nat) (m : String × Json) : MemberForm where
  before := newLine depth
  key := printString (some m.1)
  after := []
  value := ' ' :: printAt depth m.2
  name := some m.1
  content := m.2

theorem printMembers_eq (depth : Nat) (members : List (String × Json)) :
  printMembers depth (members.map fun m => (some m.1, m.2))
    = (members.map fun m => (printedMember depth m).text).flatMap (',' :: ·)
  := by
  induction members with
  | nil => rfl
  | cons m members ih => simp [printMembers, ih, MemberForm.text, printedMember]

theorem wellKeyed_printedMember (depth : Nat) (m : String × Json) :
  (printedMember depth m).WellKeyed
  where
  before := blanks_newLine depth
  key := stringForm_printString m.1
  after := blanks_nil

/-- A member with no blanks in it. -/
def compactMember (m : String × List Char × Json) : MemberForm where
  before := []
  key := printString (some m.1)
  after := []
  value := m.2.1
  name := some m.1
  content := m.2.2

theorem written_compact (members : List (String × List Char × Json))
    (h : ∀ m ∈ members, Written m.2.1 m.2.2) :
  Written
    ('\x7b' :: (separated (members.map fun m => printString (some m.1) ++ ':' :: m.2.1)
      ++ ['\x7d']))
    (.fields (members.map fun m => (m.1, m.2.2)))
  := by
  have hkeys : ∀ m ∈ members, (compactMember m).WellKeyed := fun m _ =>
    ⟨blanks_nil, stringForm_printString m.1, blanks_nil⟩
  have hform := Written.object (members.map compactMember) blanks_nil blanks_nil
    (List.forall_mem_map.mpr hkeys) (List.forall_mem_map.mpr h)
  simpa [Json.fields, MemberForm.text, MemberForm.member, compactMember, Function.comp_def]
    using hform

theorem written_array {depth : Nat} {j : Json} {items : List Json}
    (h : ∀ i ∈ j :: items, Written (printAt (depth + 1) i) i) :
  Written (printAt depth (.array (j :: items))) (.array (j :: items))
  := by
  have hitems : ∀ i ∈ j :: items, Written (newLine (depth + 1) ++ printAt (depth + 1) i) i := by
    intro i hi
    have hitem := (h i hi).padded (blanks_newLine (depth + 1)) blanks_nil
    rwa [List.append_nil] at hitem
  have hform := Written.array
    ((j :: items).map fun i => (newLine (depth + 1) ++ printAt (depth + 1) i, i))
    blanks_nil (blanks_newLine depth) (List.forall_mem_map.mpr hitems)
  simpa [printAt, printItems_eq, separated_eq, Function.comp_def] using hform

theorem written_fields {depth : Nat} {m : String × Json} {members : List (String × Json)}
    (h : ∀ m' ∈ m :: members, Written (printAt (depth + 1) m'.2) m'.2) :
  Written (printAt depth (.fields (m :: members))) (.fields (m :: members))
  := by
  have hkeys : ∀ m' ∈ m :: members, (printedMember (depth + 1) m').WellKeyed := fun m' _ =>
    wellKeyed_printedMember (depth + 1) m'
  have hvalues : ∀ m' ∈ m :: members, Written (' ' :: printAt (depth + 1) m'.2) m'.2 := by
    intro m' hm'
    have hvalue := (h m' hm').padded blanks_blank blanks_nil
    rwa [List.append_nil] at hvalue
  have hform := Written.object ((m :: members).map (printedMember (depth + 1)))
    blanks_nil (blanks_newLine depth) (List.forall_mem_map.mpr hkeys)
    (List.forall_mem_map.mpr hvalues)
  simpa [printAt, Json.fields, printMembers_eq, separated_eq, MemberForm.text,
    MemberForm.member, printedMember, Function.comp_def] using hform

/-- A value is printed in one of its written forms, at any depth. -/
theorem Plain.written {j : Json} (h : j.Plain) (depth : Nat) :
  Written (printAt depth j) j
  := by
  induction h generalizing depth with
  | null => exact .null
  | bool b =>
      cases b with
      | true => rw [printAt]; exact .bool true
      | false => rw [printAt]; exact .bool false
  | integer negative n =>
      cases negative with
      | true => rw [printAt]; exact .integer true n
      | false => rw [printAt]; exact .integer false n
  | text s => exact .string (stringForm_printString s)
  | @array items _ ih =>
      cases items with
      | nil => exact .array [] blanks_nil blanks_nil nofun
      | cons j items => exact written_array fun i hi => ih i hi (depth + 1)
  | @fields members _ ih =>
      cases members with
      | nil => exact .object [] blanks_nil blanks_nil nofun nofun
      | cons m members => exact written_fields fun m' hm' => ih m' hm' (depth + 1)

theorem Plain.written_print {j : Json} (h : j.Plain) :
  Written j.print.toList j
  := by
  rw [print, String.toList_ofList]
  exact h.written 0

/-- A plain value is what is read from its printed form. -/
theorem parse_print {j : Json} (h : j.Plain) :
  parse j.print = some j
  := h.written_print.parse

end SymbolIndex.Json
