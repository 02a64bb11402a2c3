import SymbolIndex.Contents.Format
import SymbolIndex.Proofs.Json.Codec

/-!
# Documents keep contents

Whatever a store holds is read back from the document that is written of it: every text, every
integer of every size, and a main file that is absent, present or empty.
-/

namespace SymbolIndex

open Codec

/-- A fault is written as its name, and found by it. -/
@[simp] theorem ListenFault.codec_lawful :
  ListenFault.codec.Lawful
  := by
  refine ⟨fun f => .text f.name, fun f => ?_⟩
  cases f <;> simp [codec, Json.text, ofName?, name]

/-- A main file that is there is written as a text, and only one that is absent as null. -/
@[simp] theorem mainFile_lawful :
  text.optional.Lawful
  := optional_lawful text_lawful fun _ => nofun

/-- The names of the attributes are distinct, and so each one is read back. -/
@[simp] theorem DependencyEntry.codec_lawful :
  DependencyEntry.codec.Lawful
  := by
  apply record_lawful
  · simp
  · simp
  · intro a
    simp

@[simp] theorem IncludeEntry.codec_lawful :
  IncludeEntry.codec.Lawful
  := by
  apply record_lawful
  · simp
  · simp
  · intro a
    simp

@[simp] theorem UnitEntry.codec_lawful :
  UnitEntry.codec.Lawful
  := by
  apply record_lawful
  · simp
  · simp
  · intro a
    simp

@[simp] theorem SymbolEntry.codec_lawful :
  SymbolEntry.codec.Lawful
  := by
  apply record_lawful
  · simp
  · simp
  · intro a
    simp

@[simp] theorem RelationEntry.codec_lawful :
  RelationEntry.codec.Lawful
  := by
  apply record_lawful
  · simp
  · simp
  · intro a
    simp

@[simp] theorem OccurrenceEntry.codec_lawful :
  OccurrenceEntry.codec.Lawful
  := by
  apply record_lawful
  · simp
  · simp
  · intro a
    simp

@[simp] theorem RecordEntry.codec_lawful :
  RecordEntry.codec.Lawful
  := by
  apply record_lawful
  · simp
  · simp
  · intro a
    simp

/-- The codecs of the parts keep what they are given, and so does that of the whole. -/
@[simp] theorem StoreContents.codec_lawful :
  StoreContents.codec.Lawful
  := by
  apply record_lawful
  · simp
  · simp
  · intro a
    simp

namespace StoreContents

/-- Whatever contents a store has, they are read from their document. -/
theorem ofDocument?_document (c : StoreContents) :
  ofDocument? c.document = some c
  := by
  rw [ofDocument?, document, Json.parse_print (codec_lawful.plain c), Option.bind_some,
    codec_lawful.decode_encode]

end StoreContents

end SymbolIndex
