import SymbolIndex.Library.Access
import SymbolIndex.Proofs.Text.Utf8

/-!
# Texts that are passed

A text comes from a library with its length, or goes to it with a zero behind it. Either way it is
read as it has been written. What cannot be read does not disturb the text before it, and once a
text has been read it is written and read again as it is.
-/

namespace SymbolIndex.Text

/-- What comes behind the octets of a text is read by itself. -/
theorem decode_append (s : String) (bs : Octets) :
  decode (octets s ++ bs) = s ++ decode bs
  := by
  rw [decode, octets, decodeFrom_chars, String.ofList_append, String.ofList_toList, decode]

/-- A text without zeros is read up to the zero behind it. -/
theorem readTerminated_zero {s : String} (h : '\x00' ∉ s.toList) (rest : Octets) :
  readTerminated (some (octets s ++ 0 :: rest)) = s
  := by
  have htext : (octets s ++ 0 :: rest).takeWhile (· ≠ 0) = octets s := by
    rw [List.takeWhile_append_of_pos]
    · simp
    · intro b hb
      simpa using ne_zero_of_mem_octets h hb
  rw [readTerminated, htext, decode_octets]

variable {σ : Type}

/-- A text goes to a library as its octets, or is refused for a zero of its own. -/
theorem terminated_eq (s : String) (state : σ) :
  Access.terminated s state
    = if '\x00' ∈ s.toList then
        (.error (.error (.badArgument (.interiorZero (quoted s)))), state)
      else (.ok (octets s), state)
  := by
  rw [Access.terminated]
  cases hterminated : terminated? s with
  | none =>
      rw [if_pos (terminated?_eq_none.mp hterminated)]
      rfl
  | some bs =>
      obtain ⟨hzero, rfl⟩ := terminated?_eq_some.mp hterminated
      rw [if_neg hzero]
      rfl

/-- Texts are passed unharmed. A text that comes with its length is read as it is, zeros included.
A text that goes out with a zero behind it is refused as a bad argument exactly if it has a zero of
its own, and is read as it is otherwise. Whatever comes behind the octets of a text, the text is
read first and the rest by itself. A text that has been read from any octets is read again from its
own. -/
theorem passes_unharmed (state : σ) :
  (∀ s, read (some (octets s)) = s)
    ∧ (∀ s, (∃ shown, Access.terminated s state
          = (.error (.error (.badArgument (.interiorZero shown))), state))
        ↔ '\x00' ∈ s.toList)
    ∧ (∀ s, '\x00' ∉ s.toList → ∃ bs, Access.terminated s state = (.ok bs, state)
        ∧ decode bs = s ∧ ∀ rest, readTerminated (some (bs ++ 0 :: rest)) = s)
    ∧ (∀ s bs, read (some (octets s ++ bs)) = s ++ read (some bs))
    ∧ ∀ bs, read (some (octets (read (some bs)))) = read (some bs)
  := by
  refine ⟨read_octets, ?_, ?_, decode_append, fun bs => read_octets _⟩
  · intro s
    rw [terminated_eq]
    split <;> simp [*]
  · intro s h
    refine ⟨octets s, ?_, decode_octets s, readTerminated_zero h⟩
    rw [terminated_eq, if_neg h]

/-- A text whose characters have one, two and four octets. -/
theorem passes_unharmed_widths :
  '\x00' ∉ "aé😀".toList ∧ ∃ bs, Access.terminated "aé😀" () = (.ok bs, ())
    ∧ decode bs = "aé😀" ∧ ∀ rest, readTerminated (some (bs ++ 0 :: rest)) = "aé😀"
  := by
  have hzero : '\x00' ∉ "aé😀".toList := by decide
  exact ⟨hzero, (passes_unharmed ()).2.2.1 _ hzero⟩

end SymbolIndex.Text
