import SymbolIndex.Session.Answer
import SymbolIndex.Session.Step

/-!
# Scripted callbacks

A scripted applier notes each item that it is given, and then replies as its script says.
-/

namespace SymbolIndex

def panicText (n : Nat) : String := "panic at item " ++ toString n

namespace Script

variable {σ α ι : Type}

/-- The reply to the item of the given number. -/
def reply (s : Script) (n : Nat) : Reply :=
  if n = s.panicAt then .panic (panicText n)
  else if n = s.stopAt then .stop
  else .proceed

/-- The applier that notes items, the last one first. -/
def applier (s : Script) (note : α → σ → ι × σ) : Applier (List ι × σ) α := fun item state =>
  let (noted, library) := note item state.2
  let notes := noted :: state.1
  (s.reply notes.length, notes, library)

/-- Runs a listing with a scripted applier. -/
def run (s : Script) (listing : Listing σ α) (note : α → σ → ι × σ) (state : σ) :
    Traversed ι × σ :=
  let (result, notes, state) := listing.apply (s.applier note) ([], state)
  (⟨notes.reverse, result⟩, state)

end Script

/-- What a filter and a receiver have noted, the last item first. -/
structure SearchNotes where
  seen : List String := []
  received : List String := []

namespace SearchScript

variable {σ : Type}

/-- The verdict on the symbol of the given number. -/
def verdict (s : SearchScript) (n : Nat) (v : SymbolView) : Verdict :=
  match s.kind with
  | some kind => .acceptIf (Vocabulary.name v.kindOrUnknown == kind)
  | none => s.verdicts[n - 1]?.getD s.default

/-- The filter and the receiver that note symbols. -/
def searcher (s : SearchScript) : Searcher (SearchNotes × σ) SymbolView where
  filter v state :=
    let notes := { state.1 with seen := Text.read v.name :: state.1.seen }
    let n := notes.seen.length
    (if n = s.filterPanicAt then .panic (panicText n) else .verdict (s.verdict n v),
      notes, state.2)
  receive v state :=
    let notes := { state.1 with received := Text.read v.name :: state.1.received }
    let n := notes.received.length
    (if n = s.receiverPanicAt then some (panicText n) else none, notes, state.2)

end SearchScript

end SymbolIndex
