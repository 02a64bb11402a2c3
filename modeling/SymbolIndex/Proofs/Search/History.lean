import Mathlib.Data.List.Basic
import SymbolIndex.Search

/-!
# Histories of a search

A search play that is run leaves a history of calls: what the library has asked and given, and
what has come of it. `Searcher.Trace` has one rule for each thing that can come of a call. The
filter is run while nothing has ended the search, and the receiver while nothing has panicked and
accepted items are outstanding.
-/

namespace SymbolIndex

variable {ρ α : Type}

/-- A call by the library in a search, with what has come of it. -/
inductive SearchCall (α : Type) where
  /-- The library has asked about an item and got a verdict. If the filter was run on the item, it
  has made a reply. -/
  | ask (item : α) (reply : Option FilterReply) (answer : Verdict)
  /-- The library has given an item. If the receiver was run on the item, it may have panicked. -/
  | give (item : α) (reply : Option (Option String))

/-- The play makes the calls of a history if it is answered as the history says, and then
returns. -/
inductive SearchPlay.Runs : SearchPlay α → List (SearchCall α) → Bool → Prop where
  | finish (complete : Bool) : Runs (.finish complete) [] complete
  | ask {a : α} {next : Verdict → SearchPlay α} {reply : Option FilterReply} {answer : Verdict}
      {history : List (SearchCall α)} {complete : Bool}
      (h : (next answer).Runs history complete) :
      Runs (.ask a next) (.ask a reply answer :: history) complete
  | give {a : α} {next : SearchPlay α} {reply : Option (Option String)}
      {history : List (SearchCall α)} {complete : Bool} (h : next.Runs history complete) :
      Runs (.give a next) (.give a reply :: history) complete

/-- What the library is told when the filter has replied. -/
def FilterReply.answer : FilterReply → Verdict
  | .verdict v => v
  | .panic _ => .rejectedLast

/-- What has been run on an item. -/
inductive SearchNote (α : Type) where
  | filtered (item : α)
  | received (item : α)

namespace SearchCall

/-- The panic that has come of the call. -/
def panic? : SearchCall α → Option String
  | ask _ (some (.panic message)) _ => some message
  | give _ (some (some message)) => some message
  | _ => none

/-- The filter has asked to stop. -/
def asksToStop : SearchCall α → Bool
  | ask _ (some (.verdict v)) _ => v.stop
  | _ => false

/-- The item that the filter has accepted. -/
def accepted? : SearchCall α → Option α
  | ask a (some (.verdict v)) _ => if v.accept then some a else none
  | _ => none

/-- The item on which the receiver was run. -/
def received? : SearchCall α → Option α
  | give a (some _) => some a
  | _ => none

/-- The item that the library has given. -/
def given? : SearchCall α → Option α
  | give a _ => some a
  | _ => none

/-- The library has asked, and the filter was not run. -/
def asksInVain : SearchCall α → Bool
  | ask _ none _ => true
  | _ => false

/-- The library has given an item, and the receiver was not run. -/
def givesInVain : SearchCall α → Bool
  | give _ none => true
  | _ => false

/-- What was run. -/
def note? : SearchCall α → Option (SearchNote α)
  | ask a (some _) _ => some (.filtered a)
  | give a (some _) => some (.received a)
  | _ => none

end SearchCall

namespace SearchHistory

/-- The items that the filter has accepted, in order. -/
def accepted (h : List (SearchCall α)) : List α := h.filterMap SearchCall.accepted?

/-- The items on which the receiver was run, in order. -/
def received (h : List (SearchCall α)) : List α := h.filterMap SearchCall.received?

/-- The items that the library has given, in order. -/
def given (h : List (SearchCall α)) : List α := h.filterMap SearchCall.given?

/-- What was run, in order. -/
def notes (h : List (SearchCall α)) : List (SearchNote α) := h.filterMap SearchCall.note?

/-- The first panic. -/
def panic? (h : List (SearchCall α)) : Option String := h.findSome? SearchCall.panic?

/-- The filter has asked to stop. -/
def stopped (h : List (SearchCall α)) : Bool := h.any SearchCall.asksToStop

/-- The number of times the filter was not run when the library asked. -/
def late (h : List (SearchCall α)) : Nat := h.countP SearchCall.asksInVain

/-- The number of times the receiver was not run when the library gave an item. -/
def unrequested (h : List (SearchCall α)) : Nat := h.countP SearchCall.givesInVain

/-- More items have been accepted than the receiver was run on. -/
def Outstanding (h : List (SearchCall α)) : Prop := (received h).length < (accepted h).length

/-- The receiver may be run. -/
def Receptive (h : List (SearchCall α)) : Prop := panic? h = none ∧ Outstanding h

/-- The filter has asked to stop, or one of the two functions has panicked. -/
def Ended (h : List (SearchCall α)) : Prop := stopped h = true ∨ panic? h ≠ none

end SearchHistory

open SearchHistory

namespace Searcher

/-- The histories that can come about from a state, and the states after them. -/
inductive Trace (f : Searcher ρ α) (r₀ : ρ) : List (SearchCall α) → ρ → Prop where
  | start : Trace f r₀ [] r₀
  /-- The filter is run, and the library is told what it replies. -/
  | filter {h r} (past : Trace f r₀ h r) (open_ : ¬ Ended h) (a : α) :
      Trace f r₀ (h ++ [.ask a (some (f.filter a r).1) (f.filter a r).1.answer]) (f.filter a r).2
  /-- The search has ended, and the library is told to reject the item and to stop. -/
  | late {h r} (past : Trace f r₀ h r) (ended : Ended h) (a : α) :
      Trace f r₀ (h ++ [.ask a none .rejectedLast]) r
  /-- The receiver is run. -/
  | receive {h r} (past : Trace f r₀ h r) (receptive : Receptive h) (a : α) :
      Trace f r₀ (h ++ [.give a (some (f.receive a r).1)]) (f.receive a r).2
  /-- Nothing is outstanding, or something has panicked, and the receiver is left alone. -/
  | refuse {h r} (past : Trace f r₀ h r) (idle : ¬ Receptive h) (a : α) :
      Trace f r₀ (h ++ [.give a none]) r

/-- The filter and the receiver with a note of each run. -/
def noted (f : Searcher ρ α) : Searcher (List (SearchNote α) × ρ) α where
  filter a := fun (notes, r) => ((f.filter a r).1, notes ++ [.filtered a], (f.filter a r).2)
  receive a := fun (notes, r) => ((f.receive a r).1, notes ++ [.received a], (f.receive a r).2)

end Searcher

/-- A filter and a receiver that never panic, with a state in common. -/
structure Client (ρ α : Type) where
  filter : α → ρ → Verdict × ρ
  receive : α → ρ → ρ

def Client.searcher (k : Client ρ α) : Searcher ρ α where
  filter a r := (.verdict (k.filter a r).1, (k.filter a r).2)
  receive a r := (none, k.receive a r)

end SymbolIndex
