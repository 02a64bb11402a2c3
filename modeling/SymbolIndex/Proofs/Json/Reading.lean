import Mathlib.Data.List.TakeWhile
import SymbolIndex.Json.Reader
import SymbolIndex.Proofs.Json.Grammar

/-!
# Written forms are read

A value is what is read from each of its written forms. The reader knows where a word or a number
ends by what comes after it: a mark that may stand behind a value, a blank, or nothing.
-/

namespace SymbolIndex.Json

/-- A value may end before the character. -/
def Ends (c : Char) : Prop :=
  c = ',' ∨ c = ']' ∨ c = '\x7d' ∨ c = ' ' ∨ c = '\n' ∨ c = '\t' ∨ c = '\r'

/-- Nothing, or something before which a value may end. -/
def Follows (cs : List Char) : Prop := ∀ c ∈ cs.head?, Ends c

/-- The reader takes a value. What has been opened before it is on the stack. -/
def Reader.Awaits (r : Reader) (stack : List Frame) : Prop :=
  ∀ t, t ≠ .closeArray → readStep r t = readValue stack t

/-- The reader takes a key. What has been opened before the object is on the stack. -/
def Reader.AwaitsKey (r : Reader) (members : List (Option String × Json)) (stack : List Frame) :
    Prop :=
  ∀ k, readStep r (.scalar (.string k)) = some (.colon members k stack)

variable {s : Scan} {r : Reader} {stack : List Frame} {t : Token} {c : Char}
    {cs text rest : List Char} {j : Json} {members : List (Option String × Json)}

theorem awaits_value (stack : List Frame) :
  (Reader.value stack).Awaits stack
  := fun _ _ => rfl

theorem awaits_firstItem (stack : List Frame) :
  (Reader.firstItem stack).Awaits (.array [] :: stack)
  := by
  intro t ht
  cases t with
  | closeArray => exact absurd rfl ht
  | _ => rfl

theorem awaitsKey_key (members : List (Option String × Json)) (stack : List Frame) :
  (Reader.key members stack).AwaitsKey members stack
  := fun _ => rfl

theorem awaitsKey_firstKey (stack : List Frame) :
  (Reader.firstKey stack).AwaitsKey [] stack
  := fun _ => rfl

theorem follows_nil :
  Follows []
  := fun _ h => by cases h

theorem follows_cons (h : Ends c) (cs : List Char) :
  Follows (c :: cs)
  := by
  rintro d ⟨rfl⟩
  exact h

theorem Blanks.follows {blanks : List Char} (h : Blanks blanks) (hrest : Follows rest) :
  Follows (blanks ++ rest)
  := by
  cases blanks with
  | nil => exact hrest
  | cons c cs => exact follows_cons (.inr (.inr (.inr (h c List.mem_cons_self)))) _

/-! ### Tokens -/

/-- A token that is known to end with the character after it is read before that character. -/
theorem parseFrom_scanAfter (hs : scanStep s c = scanAfter (some t) c) :
  parseFrom s r (c :: cs) = (readStep r t).bind fun r => parseFrom .between r (c :: cs)
  := by
  have hbetween : scanStep .between c = scanBetween c := rfl
  simp only [parseFrom, hs, scanAfter, hbetween]
  cases scanBetween c with
  | none => cases readStep r t <;> rfl
  | some p => cases hr : readStep r t <;> simp [readTokens, hr]

/-- A token ends with what comes after a value. -/
theorem parseFrom_follows (hend : scanEnd s = some [t])
    (hstep : ∀ c, Ends c → scanStep s c = scanAfter (some t) c) (hrest : Follows rest) :
  parseFrom s r rest = (readStep r t).bind fun r => parseFrom .between r rest
  := by
  have hbetween : scanEnd .between = some [] := rfl
  cases rest with
  | nil =>
      simp only [parseFrom, hend, hbetween, Option.bind_some, readTokens]
      cases readStep r t <;> rfl
  | cons c cs => exact parseFrom_scanAfter (hstep c (hrest c rfl))

/-- A character that is a token is read as that token. -/
theorem parseFrom_token (hc : scanBetween c = some ([t], .between)) {r' : Reader}
    (hr : readStep r t = some r') :
  parseFrom .between r (c :: cs) = parseFrom .between r' cs
  := by
  have hbetween : scanStep .between c = scanBetween c := rfl
  simp only [parseFrom, hbetween, hc, readTokens, hr, Option.bind_some]

/-- Blanks are passed over. -/
theorem parseFrom_blanks {blanks : List Char} (h : Blanks blanks) :
  parseFrom .between r (blanks ++ cs) = parseFrom .between r cs
  := by
  induction blanks with
  | nil => rfl
  | cons c blanks ih =>
      obtain ⟨hc, hblanks⟩ := List.forall_mem_cons.mp h
      rw [← ih hblanks]
      rcases hc with rfl | rfl | rfl | rfl <;> rfl

theorem Reader.Awaits.scalar (hr : r.Awaits stack) (j : Json) :
  (readStep r (.scalar j)).bind (fun r => parseFrom .between r cs)
    = parseFrom .between (.done j stack) cs
  := by
  rw [hr (.scalar j) nofun]
  rfl

theorem parseFrom_word {read : List Char} (ht : wordToken? read.reverse = some t)
    (hrest : Follows rest) :
  parseFrom (.word read) r rest = (readStep r t).bind fun r => parseFrom .between r rest
  := by
  apply parseFrom_follows _ _ hrest
  · rw [scanEnd, ht]
    rfl
  · rintro c (rfl | rfl | rfl | rfl | rfl | rfl | rfl) <;> rw [scanStep, ht] <;> rfl

theorem parseFrom_number {read : List Char} (ht : numberToken? read.reverse = some t)
    (hrest : Follows rest) :
  parseFrom (.number read) r rest = (readStep r t).bind fun r => parseFrom .between r rest
  := by
  apply parseFrom_follows _ _ hrest
  · rw [scanEnd, ht]
    rfl
  · rintro c (rfl | rfl | rfl | rfl | rfl | rfl | rfl) <;> rw [scanStep, ht] <;> rfl

/-! ### Numbers -/

theorem magnitude_toDigits (n : Nat) :
  magnitude (Nat.toDigits 10 n) = n
  := by
  have hfold : magnitude (Nat.toDigits 10 n) = Nat.ofDigitChars 10 (Nat.toDigits 10 n) 0 := by
    rw [magnitude, Nat.ofDigitChars_eq_foldl]
    congr 1
    funext k c
    rw [Nat.mul_comm]
  rw [hfold, Nat.ofDigitChars_ten_toDigits]

/-- Only zero is written with a leading zero. -/
theorem head?_toDigits {n : Nat} (hn : n ≠ 0) :
  (Nat.toDigits 10 n).head? ≠ some '0'
  := by
  induction n using Nat.strongRecOn with
  | ind n ih =>
      rw [Nat.toDigits_eq_if (by decide)]
      split
      case isTrue => simpa using hn
      case isFalse hlarge =>
          have hrest := ih (n / 10) (by omega) (by omega)
          cases hsplit : Nat.toDigits 10 (n / 10) with
          | nil => exact absurd hsplit Nat.toDigits_ne_nil
          | cons d ds =>
              rw [hsplit] at hrest
              exact hrest

theorem digits_toDigits (n : Nat) :
  Digits (Nat.toDigits 10 n)
  := ⟨Nat.toDigits_ne_nil, fun _ hc => Nat.isDigit_of_mem_toDigits (by decide) (by decide) hc⟩

/-- A numeral has no leading zero. -/
theorem toDigits_leading (n : Nat) :
  ¬ (Nat.toDigits 10 n = []
      ∨ (Nat.toDigits 10 n).head? = some '0' ∧ Nat.toDigits 10 n ≠ ['0'])
  := by
  rintro (h | ⟨hzero, hlong⟩)
  · exact Nat.toDigits_ne_nil h
  · by_cases hn : n = 0
    · subst hn
      exact hlong rfl
    · exact head?_toDigits hn hzero

/-- What comes behind some digits begins with no digit. -/
def NoDigitFirst (cs : List Char) : Prop := ∀ c ∈ cs.head?, c.isDigit = false

theorem Digits.span (h : Digits text) (hcs : NoDigitFirst cs) :
  (text ++ cs).takeWhile Char.isDigit = text ∧ (text ++ cs).dropWhile Char.isDigit = cs
  := by
  rw [List.takeWhile_append_of_pos h.2, List.dropWhile_append_of_pos h.2]
  cases cs with
  | nil => simp
  | cons c cs => simp [hcs c rfl]

/-- Digits begin with a digit. -/
theorem Digits.exists_cons (h : Digits text) :
  ∃ d ds, text = d :: ds ∧ d.isDigit = true ∧ ∀ c ∈ ds, c.isDigit = true
  := by
  cases text with
  | nil => exact absurd rfl h.1
  | cons d ds => exact ⟨d, ds, rfl, List.forall_mem_cons.mp h.2⟩

theorem ne_of_isDigit {d : Char} (hd : d.isDigit = true) (hc : c.isDigit = false) :
  d ≠ c
  := by
  rintro rfl
  rw [hd] at hc
  cases hc

/-- A numeral with something behind it that begins with no digit is a whole number or a decimal. -/
theorem numberToken?_numeral (negative : Bool) (n : Nat) (hcs : NoDigitFirst cs) :
  numberToken? (numeral negative n ++ cs)
    = if cs = [] then some (.scalar (.integer negative n))
      else if isFraction cs then some (.scalar (.decimal (numeral negative n ++ cs)))
      else none
  := by
  obtain ⟨htake, hdrop⟩ := (digits_toDigits n).span hcs
  have hleading := toDigits_leading n
  have hsign : (Nat.toDigits 10 n ++ cs).head? ≠ some '-' := by
    obtain ⟨d, ds, hsplit, hd, -⟩ := (digits_toDigits n).exists_cons
    rw [hsplit, List.cons_append, List.head?_cons]
    simpa using ne_of_isDigit hd rfl
  cases negative with
  | true =>
      simp only [numberToken?, numeral, ↓reduceIte, List.cons_append, List.head?_cons,
        List.tail_cons, htake, hdrop, hleading, magnitude_toDigits, decide_true]
  | false =>
      simp only [numberToken?, numeral, ↓reduceIte, hsign, htake, hdrop, hleading,
        magnitude_toDigits, decide_false]

theorem Exponent.isExponent (h : Exponent cs) :
  isExponent cs = true
  := by
  cases h with
  | @mk e sign digits he hsign hdigits =>
      obtain ⟨d, ds, rfl, hd, hds⟩ := hdigits.exists_cons
      have hplus := ne_of_isDigit hd (c := '+') rfl
      have hminus := ne_of_isDigit hd (c := '-') rfl
      rcases hsign with rfl | rfl | rfl
      · simpa [Json.isExponent, he, hd, hplus, hminus] using hds
      · simpa [Json.isExponent, he, hd] using hds
      · simpa [Json.isExponent, he, hd] using hds

theorem Exponent.first (h : Exponent cs) :
  ∃ e rest, cs = e :: rest ∧ e ≠ '.' ∧ e.isDigit = false
  := by
  cases h with
  | mk he => rcases he with rfl | rfl <;> exact ⟨_, _, rfl, by decide, rfl⟩

theorem Exponent.noDigitFirst (h : Exponent cs) :
  NoDigitFirst cs
  := by
  obtain ⟨e, rest, rfl, -, hdigit⟩ := h.first
  rintro c ⟨rfl⟩
  exact hdigit

theorem Fraction.isFraction (h : Fraction cs) :
  isFraction cs = true
  := by
  cases h with
  | exponent h =>
      have hexponent := h.isExponent
      obtain ⟨e, rest, rfl, hpoint, -⟩ := h.first
      rw [Json.isFraction, hexponent]
      rintro rest' ⟨rfl⟩
      exact hpoint rfl
  | @point digits cs hdigits h =>
      have hcs : NoDigitFirst cs ∧ Json.isExponent cs = true := by
        rcases h with rfl | h
        · exact ⟨nofun, rfl⟩
        · exact ⟨h.noDigitFirst, h.isExponent⟩
      obtain ⟨htake, hdrop⟩ := hdigits.span hcs.1
      simp [Json.isFraction, htake, hdrop, hdigits.1, hcs.2]

theorem Fraction.noDigitFirst (h : Fraction cs) :
  NoDigitFirst cs
  := by
  cases h with
  | exponent h => exact h.noDigitFirst
  | point =>
      rintro c ⟨rfl⟩
      rfl

theorem Fraction.ne_nil (h : Fraction cs) :
  cs ≠ []
  := by
  cases h with
  | exponent h =>
      obtain ⟨e, rest, rfl, -⟩ := h.first
      exact List.cons_ne_nil _ _
  | point => exact List.cons_ne_nil _ _

/-! A number goes on up to a character that cannot belong to it. -/

theorem Digits.isNumeral (h : Digits text) :
  ∀ c ∈ text, isNumeral c = true
  := by
  intro c hc
  simp [Json.isNumeral, h.2 c hc]

theorem Exponent.isNumeral (h : Exponent cs) :
  ∀ c ∈ cs, isNumeral c = true
  := by
  cases h with
  | mk he hsign hdigits =>
      intro c hc
      rcases List.mem_cons.mp hc with rfl | hc
      · rcases he with rfl | rfl <;> rfl
      rcases List.mem_append.mp hc with hc | hc
      · rcases hsign with rfl | rfl | rfl
        · cases hc
        · obtain rfl := List.mem_singleton.mp hc
          rfl
        · obtain rfl := List.mem_singleton.mp hc
          rfl
      · exact hdigits.isNumeral c hc

theorem Fraction.isNumeral (h : Fraction cs) :
  ∀ c ∈ cs, isNumeral c = true
  := by
  cases h with
  | exponent h => exact h.isNumeral
  | point hdigits h =>
      intro c hc
      rcases List.mem_cons.mp hc with rfl | hc
      · rfl
      rcases List.mem_append.mp hc with hc | hc
      · exact hdigits.isNumeral c hc
      · rcases h with rfl | h
        · cases hc
        · exact h.isNumeral c hc

theorem parseFrom_numerals (hcs : ∀ c ∈ cs, isNumeral c = true) (read : List Char) :
  parseFrom (.number read) r (cs ++ rest) = parseFrom (.number (cs.reverse ++ read)) r rest
  := by
  induction cs generalizing read with
  | nil => rfl
  | cons d cs ih =>
      have hstep : scanStep (.number read) d = some ([], .number (d :: read)) :=
        if_pos (hcs d List.mem_cons_self)
      have hrest := ih (fun c hc => hcs c (List.mem_cons_of_mem _ hc)) (d :: read)
      rw [List.reverse_cons, List.append_assoc, List.singleton_append, ← hrest, List.cons_append]
      simp only [parseFrom, hstep, readTokens]

/-- A sign or a digit begins a number. -/
theorem scanStep_number (hc : c = '-' ∨ c.isDigit = true) :
  scanStep .between c = some ([], .number [c])
  := by
  rcases hc with rfl | hc
  · rfl
  · have hne : ∀ d : Char, d.isDigit = false → c ≠ d := fun d hd => ne_of_isDigit hc hd
    simp [scanStep, scanBetween, isBlank, hc, hne ' ' rfl, hne '\n' rfl, hne '\t' rfl, hne '\r' rfl,
      hne '[' rfl, hne ']' rfl, hne '\x7b' rfl, hne '\x7d' rfl, hne ',' rfl, hne ':' rfl,
      hne '"' rfl]

theorem numeral_first (negative : Bool) (n : Nat) :
  ∃ c ds, numeral negative n = c :: ds ∧ (c = '-' ∨ c.isDigit = true)
    ∧ ∀ d ∈ ds, isNumeral d = true
  := by
  have hdigits := digits_toDigits n
  cases negative with
  | true => exact ⟨'-', _, rfl, .inl rfl, hdigits.isNumeral⟩
  | false =>
      obtain ⟨d, ds, hsplit, hd, hds⟩ := hdigits.exists_cons
      refine ⟨d, ds, hsplit, .inr hd, ?_⟩
      intro c hc
      exact hdigits.isNumeral c (hsplit ▸ List.mem_cons_of_mem d hc)

/-- A number is read up to its end. -/
theorem parseFrom_numeral (negative : Bool) (n : Nat) (hcs : ∀ c ∈ cs, isNumeral c = true)
    (ht : numberToken? (numeral negative n ++ cs) = some t) (hrest : Follows rest) :
  parseFrom .between r (numeral negative n ++ cs ++ rest)
    = (readStep r t).bind fun r => parseFrom .between r rest
  := by
  obtain ⟨c, ds, hsplit, hc, hds⟩ := numeral_first negative n
  rw [hsplit] at ht ⊢
  have hall : ∀ d ∈ ds ++ cs, isNumeral d = true := by
    intro d hd
    rcases List.mem_append.mp hd with hd | hd
    · exact hds d hd
    · exact hcs d hd
  calc parseFrom .between r (c :: (ds ++ cs ++ rest))
    _ = parseFrom (.number [c]) r (ds ++ cs ++ rest) := by
        simp only [parseFrom, scanStep_number hc, readTokens]
    _ = parseFrom (.number ((ds ++ cs).reverse ++ [c])) r rest := parseFrom_numerals hall [c]
    _ = _ := parseFrom_number (by simpa using ht) hrest

/-! ### Strings -/

theorem digitValue?_of_hexDigit {d : Nat} (h : HexDigit c d) :
  digitValue? c = some d
  := by
  have hsmall : ∀ d : Fin 16, digitValue? (smallHex.get d) = some d.val := by decide
  have hlarge : ∀ d : Fin 16, digitValue? (largeHex.get d) = some d.val := by decide
  rcases h with h | h
  · obtain ⟨hd, rfl⟩ := List.getElem?_eq_some_iff.mp h
    exact hsmall ⟨d, hd⟩
  · obtain ⟨hd, rfl⟩ := List.getElem?_eq_some_iff.mp h
    exact hlarge ⟨d, hd⟩

theorem shortEscape?_of_mem {e : Char} (h : (e, c) ∈ shortEscapes) :
  e ≠ 'u' ∧ shortEscape? e = some c
  := by
  simp only [shortEscapes, List.mem_cons, Prod.mk.injEq, List.not_mem_nil, or_false] at h
  rcases h with ⟨rfl, rfl⟩ | ⟨rfl, rfl⟩ | ⟨rfl, rfl⟩ | ⟨rfl, rfl⟩ | ⟨rfl, rfl⟩ | ⟨rfl, rfl⟩
    | ⟨rfl, rfl⟩ | ⟨rfl, rfl⟩ <;> exact ⟨by decide, rfl⟩

/-- A piece of a string is read from its form. -/
theorem PieceForm.parseFrom {p : Piece} (h : PieceForm text p) (read : List Piece) :
  parseFrom (.string read) r (text ++ rest) = parseFrom (.string (p :: read)) r rest
  := by
  cases h with
  | @plain c hcontrol hquote hslash =>
      have hstep : scanStep (.string read) c = some ([], .string (.scalar c :: read)) := by
        rw [scanStep, if_neg hquote, if_neg hslash, if_neg hcontrol]
      simp only [List.singleton_append, Json.parseFrom, hstep, readTokens]
  | @short e c h =>
      obtain ⟨hcode, hescape⟩ := shortEscape?_of_mem h
      have hstep : scanStep (.escape read) e = some ([], .string (.scalar c :: read)) := by
        rw [scanStep, if_neg hcode, hescape]
        rfl
      calc Json.parseFrom (.string read) r ('\\' :: e :: rest)
        _ = Json.parseFrom (.escape read) r (e :: rest) := rfl
        _ = _ := by simp only [Json.parseFrom, hstep, readTokens]
  | @code a b c d x y z w ha hb hc hd =>
      calc Json.parseFrom (.string read) r ('\\' :: 'u' :: a :: b :: c :: d :: rest)
        _ = Json.parseFrom (.code read 0 0) r (a :: b :: c :: d :: rest) := rfl
        _ = _ := by
            simp [Json.parseFrom, scanStep, digitValue?_of_hexDigit ha, digitValue?_of_hexDigit hb,
              digitValue?_of_hexDigit hc, digitValue?_of_hexDigit hd, readTokens]

theorem parseFrom_pieces {pieces : List (List Char × Piece)}
    (h : ∀ p ∈ pieces, PieceForm p.1 p.2) (read : List Piece) :
  parseFrom (.string read) r (pieces.flatMap Prod.fst ++ rest)
    = parseFrom (.string ((pieces.map Prod.snd).reverse ++ read)) r rest
  := by
  induction pieces generalizing read with
  | nil => rfl
  | cons p pieces ih =>
      obtain ⟨hp, hpieces⟩ := List.forall_mem_cons.mp h
      rw [List.flatMap_cons, List.append_assoc, hp.parseFrom, ih hpieces]
      simp

/-- A string is read from its form. -/
theorem StringForm.parseFrom {s : Option String} (h : StringForm text s) :
  parseFrom .between r (text ++ rest)
    = (readStep r (.scalar (.string s))).bind fun r => parseFrom .between r rest
  := by
  cases h with
  | @mk pieces h =>
      have hend : ∀ read, scanStep (.string read) '"' = some
          ([.scalar (.string ((textOfPieces read.reverse).map String.ofList))], .between) :=
        fun _ => rfl
      calc Json.parseFrom .between r ('"' :: (pieces.flatMap Prod.fst ++ ['"']) ++ rest)
        _ = Json.parseFrom (.string []) r (pieces.flatMap Prod.fst ++ '"' :: rest) := by
            rw [List.cons_append, List.append_assoc]
            rfl
        _ = Json.parseFrom (.string (pieces.map Prod.snd).reverse) r ('"' :: rest) := by
            rw [parseFrom_pieces h, List.append_nil]
        _ = _ := by
            simp only [Json.parseFrom, hend, List.reverse_reverse, readTokens]
            cases readStep r (.scalar (.string _)) <;> rfl

/-! ### Values -/

/-- The text is read as the value, wherever a value may stand. -/
def Reads (text : List Char) (j : Json) : Prop :=
  ∀ r stack rest, r.Awaits stack → Follows rest →
    parseFrom .between r (text ++ rest) = parseFrom .between (.done j stack) rest

theorem separated_eq (text : List Char) (texts : List (List Char)) :
  separated (text :: texts) = text ++ texts.flatMap (',' :: ·)
  := by
  induction texts generalizing text with
  | nil => simp [separated]
  | cons other texts ih => simp [separated, List.intercalate_cons_cons, ← ih]

theorem separated_singleton (text : List Char) :
  separated [text] = text
  := by
  rw [separated_eq, List.flatMap_nil, List.append_nil]

theorem separated_cons (text other : List Char) (texts : List (List Char)) :
  separated (text :: other :: texts) = text ++ ',' :: separated (other :: texts)
  := by
  rw [separated_eq, separated_eq, List.flatMap_cons, List.cons_append]

theorem reads_number (negative : Bool) (n : Nat) (hcs : ∀ c ∈ cs, isNumeral c = true)
    (ht : numberToken? (numeral negative n ++ cs) = some (.scalar j)) :
  Reads (numeral negative n ++ cs) j
  := by
  intro r stack rest hr hrest
  rw [parseFrom_numeral negative n hcs ht hrest, hr.scalar]

theorem reads_integer (negative : Bool) (n : Nat) :
  Reads (numeral negative n) (.integer negative n)
  := by
  have hnone : ∀ c ∈ [], isNumeral c = true := List.forall_mem_nil _
  have hread := reads_number negative n hnone (numberToken?_numeral negative n nofun)
  rwa [List.append_nil] at hread

theorem Fraction.reads (h : Fraction cs) (negative : Bool) (n : Nat) :
  Reads (numeral negative n ++ cs) (.decimal (numeral negative n ++ cs))
  := by
  have htoken := numberToken?_numeral negative n h.noDigitFirst
  rw [if_neg h.ne_nil, if_pos h.isFraction] at htoken
  exact reads_number negative n h.isNumeral htoken

theorem Reads.padded {before after : List Char} (hbefore : Blanks before) (h : Reads text j)
    (hafter : Blanks after) :
  Reads (before ++ (text ++ after)) j
  := by
  intro r stack rest hr hrest
  rw [List.append_assoc, List.append_assoc, parseFrom_blanks hbefore,
    h r stack _ hr (hafter.follows hrest), parseFrom_blanks hafter]

/-- The items of an array and its end. -/
theorem parseFrom_items {items : List (List Char × Json)} {last : List Char} (hlast : Blanks last)
    {i : List Char × Json} (hitem : Reads i.1 i.2) (hitems : ∀ i ∈ items, Reads i.1 i.2)
    {read : List Json} (hr : r.Awaits (.array read :: stack)) :
  parseFrom .between r
      (separated ((i :: items).map Prod.fst) ++ (last ++ ']' :: rest))
    = parseFrom .between (.done (.array (read.reverse ++ (i :: items).map Prod.snd)) stack) rest
  := by
  -- Each item that has been read goes to those on the stack, which stand last first.
  induction items generalizing r i read with
  | nil =>
      have hend : Follows (last ++ ']' :: rest) := hlast.follows (follows_cons (.inr (.inl rfl)) _)
      rw [List.map_cons, List.map_nil, separated_singleton, hitem _ _ _ hr hend,
        parseFrom_blanks hlast, List.map_cons, List.map_nil, ← List.reverse_cons]
      exact parseFrom_token rfl rfl
  | cons k items ih =>
      obtain ⟨hk, hrest⟩ := List.forall_mem_cons.mp hitems
      have hnext := ih hk hrest (awaits_value (.array (i.2 :: read) :: stack))
      rw [List.reverse_cons, List.append_assoc, List.singleton_append] at hnext
      rw [List.map_cons, List.map_cons, separated_cons, List.append_assoc, List.cons_append,
        hitem _ _ _ hr (follows_cons (.inl rfl) _), parseFrom_token (t := .comma) rfl rfl]
      exact hnext

theorem reads_array {items : List (List Char × Json)} {first last : List Char}
    (hfirst : Blanks first) (hlast : Blanks last) (h : ∀ i ∈ items, Reads i.1 i.2) :
  Reads ('[' :: (first ++ (separated (items.map Prod.fst) ++ (last ++ [']']))))
    (.array (items.map Prod.snd))
  := by
  intro r stack rest hr hrest
  have hopen : readStep r .openArray = some (.firstItem stack) := hr .openArray nofun
  rw [List.cons_append, parseFrom_token rfl hopen]
  simp only [List.append_assoc, List.singleton_append]
  rw [parseFrom_blanks hfirst]
  cases items with
  | nil =>
      exact (parseFrom_blanks hlast).trans (parseFrom_token rfl rfl)
  | cons i items =>
      obtain ⟨hi, hitems⟩ := List.forall_mem_cons.mp h
      exact parseFrom_items hlast hi hitems (awaits_firstItem stack)

/-- A key with its value. -/
theorem parseFrom_member {m : MemberForm} (hkey : m.WellKeyed) (hvalue : Reads m.value m.content)
    (hr : r.AwaitsKey members stack) (hrest : Follows rest) :
  parseFrom .between r (m.text ++ rest)
    = parseFrom .between (.done m.content (.object members m.name :: stack)) rest
  := by
  rw [MemberForm.text]
  simp only [List.append_assoc, List.cons_append]
  rw [parseFrom_blanks hkey.before, hkey.key.parseFrom, hr, Option.bind_some,
    parseFrom_blanks hkey.after, parseFrom_token (t := .colon) rfl rfl]
  exact hvalue _ _ _ (awaits_value _) hrest

/-- The members of an object and its end. -/
theorem parseFrom_members {forms : List MemberForm} {last : List Char} (hlast : Blanks last)
    {m : MemberForm} (hkeys : ∀ m' ∈ m :: forms, m'.WellKeyed)
    (hvalues : ∀ m' ∈ m :: forms, Reads m'.value m'.content) (hr : r.AwaitsKey members stack) :
  parseFrom .between r
      (separated ((m :: forms).map MemberForm.text) ++ (last ++ '\x7d' :: rest))
    = parseFrom .between
        (.done (.object (members.reverse ++ (m :: forms).map MemberForm.member)) stack) rest
  := by
  induction forms generalizing r m members with
  | nil =>
      have hkey := hkeys m List.mem_cons_self
      have hvalue := hvalues m List.mem_cons_self
      have hend : Follows (last ++ '\x7d' :: rest) :=
        hlast.follows (follows_cons (.inr (.inr (.inl rfl))) _)
      rw [List.map_cons, List.map_nil, separated_singleton,
        parseFrom_member hkey hvalue hr hend, parseFrom_blanks hlast, List.map_cons, List.map_nil,
        MemberForm.member, ← List.reverse_cons]
      exact parseFrom_token rfl rfl
  | cons m' forms ih =>
      obtain ⟨hkey, hkeys⟩ := List.forall_mem_cons.mp hkeys
      obtain ⟨hvalue, hvalues⟩ := List.forall_mem_cons.mp hvalues
      have hnext := ih hkeys hvalues (awaitsKey_key (m.member :: members) stack)
      rw [List.reverse_cons, List.append_assoc, List.singleton_append] at hnext
      rw [List.map_cons, List.map_cons, separated_cons, List.append_assoc, List.cons_append,
        parseFrom_member hkey hvalue hr (follows_cons (.inl rfl) _),
        parseFrom_token (t := .comma) rfl rfl]
      exact hnext

theorem reads_object {forms : List MemberForm} {first last : List Char} (hfirst : Blanks first)
    (hlast : Blanks last) (hkeys : ∀ m ∈ forms, m.WellKeyed)
    (hvalues : ∀ m ∈ forms, Reads m.value m.content) :
  Reads ('\x7b' :: (first ++ (separated (forms.map MemberForm.text) ++ (last ++ ['\x7d']))))
    (.object (forms.map MemberForm.member))
  := by
  intro r stack rest hr hrest
  have hopen : readStep r .openObject = some (.firstKey stack) := hr .openObject nofun
  rw [List.cons_append, parseFrom_token rfl hopen]
  simp only [List.append_assoc, List.singleton_append]
  rw [parseFrom_blanks hfirst]
  cases forms with
  | nil => exact (parseFrom_blanks hlast).trans (parseFrom_token rfl rfl)
  | cons m forms => exact parseFrom_members hlast hkeys hvalues (awaitsKey_firstKey stack)

theorem Written.reads (h : Written text j) :
  Reads text j
  := by
  induction h with
  | null =>
      intro r stack rest hr hrest
      calc parseFrom .between r ('n' :: 'u' :: 'l' :: 'l' :: rest)
        _ = parseFrom (.word ['l', 'l', 'u', 'n']) r rest := rfl
        _ = _ := parseFrom_word rfl hrest
        _ = _ := hr.scalar .null
  | bool b =>
      intro r stack rest hr hrest
      cases b with
      | true =>
          calc parseFrom .between r ('t' :: 'r' :: 'u' :: 'e' :: rest)
            _ = parseFrom (.word ['e', 'u', 'r', 't']) r rest := rfl
            _ = _ := parseFrom_word rfl hrest
            _ = _ := hr.scalar (.bool true)
      | false =>
          calc parseFrom .between r ('f' :: 'a' :: 'l' :: 's' :: 'e' :: rest)
            _ = parseFrom (.word ['e', 's', 'l', 'a', 'f']) r rest := rfl
            _ = _ := parseFrom_word rfl hrest
            _ = _ := hr.scalar (.bool false)
  | integer negative n => exact reads_integer negative n
  | decimal negative n h => exact h.reads negative n
  | string h =>
      intro r stack rest hr hrest
      rw [h.parseFrom, hr.scalar]
  | array items hfirst hlast _ ih => exact reads_array hfirst hlast ih
  | object members hfirst hlast hkeys _ ih => exact reads_object hfirst hlast hkeys ih
  | padded hbefore _ hafter ih => exact ih.padded hbefore hafter

/-- A value is read from each of its written forms. -/
theorem Written.parse {s : String} (h : Written s.toList j) :
  parse s = some j
  := by
  have hread := h.reads (.value []) [] [] (awaits_value []) follows_nil
  rw [List.append_nil] at hread
  rw [Json.parse, hread]
  rfl

end SymbolIndex.Json
