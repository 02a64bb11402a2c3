import SymbolIndex.Traversal

/-!
# Two-stage searches

In a search a library asks a filter about each item, and hands the accepted ones to a receiver.
Again nothing is assumed of the library: it may ask and hand over in any order. `driveSearch`
passes both as callbacks of one convention, which share a state. It lets the filter see nothing
after its first stop, lets the receiver run only while accepted items are outstanding, and lets
nothing run after a panic of either.
-/

namespace SymbolIndex

/-- The decision of a filter about an item. -/
structure Verdict where
  /-- The item goes to the receiver. -/
  accept : Bool := false
  /-- The search ends after the item. -/
  stop : Bool := false
deriving DecidableEq

namespace Verdict

def accepted : Verdict := ⟨true, false⟩
def rejected : Verdict := ⟨false, false⟩
def acceptedLast : Verdict := ⟨true, true⟩
def rejectedLast : Verdict := ⟨false, true⟩

def acceptIf (accept : Bool) : Verdict := ⟨accept, false⟩

end Verdict

/-- What a library does in one search: it asks the filter and goes on by the verdict, hands an
item to the receiver, or returns whether every item has been looked at. -/
inductive SearchPlay (α : Type) where
  | finish (complete : Bool)
  | ask (item : α) (next : Verdict → SearchPlay α)
  | give (item : α) (next : SearchPlay α)

/-- The search through the items of a list: each one is asked about, and given if it is accepted,
until the filter asks to stop. -/
def SearchPlay.each {α : Type} : List α → SearchPlay α
  | [] => .finish true
  | a :: as => .ask a fun verdict =>
    let rest := if verdict.stop then .finish false else each as
    if verdict.accept then .give a rest else rest

/-- The answer of a filter: a verdict or a panic. -/
inductive FilterReply where
  | verdict (v : Verdict)
  | panic (message : String)

/-- A filter and a receiver with a state in common. The receiver may panic. -/
structure Searcher (ρ α : Type) where
  filter : α → ρ → FilterReply × ρ
  receive : α → ρ → Option String × ρ

/-- What is known of a search while it runs. -/
structure SearchProgress where
  /-- The filter has asked to stop, or either function has panicked. -/
  stopped : Bool := false
  /-- The number of accepted items that have not been received. -/
  outstanding : Nat := 0
  /-- The number of times the filter was asked after a stop. -/
  late : Nat := 0
  /-- The number of items given that no acceptance calls for. -/
  unrequested : Nat := 0
  /-- The first panic of either function. -/
  panic : Option String := none

namespace SearchProgress

/-- What is done when the library asks about an item, and the verdict that it is given. -/
def ask {ρ α : Type} (f : Searcher ρ α) : Routine α (SearchProgress × ρ) Verdict :=
  fun item (p, r) =>
    if p.stopped then (.rejectedLast, { p with late := p.late + 1 }, r)
    else
      match f.filter item r with
      | (.verdict v, r) =>
        let outstanding := if v.accept then p.outstanding + 1 else p.outstanding
        (v, { p with stopped := v.stop, outstanding }, r)
      | (.panic message, r) =>
        (.rejectedLast, { p with stopped := true, panic := some message }, r)

/-- What is done when the library hands over an item. -/
def give {ρ α : Type} (f : Searcher ρ α) : Routine α (SearchProgress × ρ) Unit :=
  fun item (p, r) =>
    if p.panic.isSome then ((), p, r)
    else if p.outstanding = 0 then ((), { p with unrequested := p.unrequested + 1 }, r)
    else
      match f.receive item r with
      | (none, r) => ((), { p with outstanding := p.outstanding - 1 }, r)
      | (some message, r) =>
        ((), { p with
          outstanding := p.outstanding - 1, stopped := true, panic := some message }, r)

/-- How a search ends, given what its library has returned. A stop of the filter ends it well
whatever the library returns. -/
def result (operation : String) (p : SearchProgress) (complete : Bool) : Except Halt Outcome :=
  match p.panic with
  | some message => .error (.panic message)
  | none =>
    if 0 < p.late then .error (.error (.breach operation (.filteredAfterStop p.late)))
    else if 0 < p.unrequested then
      .error (.error (.breach operation (.receivedRejected p.unrequested)))
    else if p.stopped then .ok .stopped
    else if complete then .ok .completed
    else .error (.error (.traversalFailed operation))

end SearchProgress

/-- Runs a search play with the two callbacks that its library has been given. -/
def SearchPlay.run {α S : Type} (filter : Callback α S Verdict) (receiver : Callback α S Unit) :
    SearchPlay α → S → Bool × S
  | finish complete, s => (complete, s)
  | ask a next, s =>
    match filter.call a s with
    | (verdict, s) => (next verdict).run filter receiver s
  | give a next, s =>
    match receiver.call a s with
    | ((), s) => next.run filter receiver s

/-- Runs a filter and a receiver against a search play, under the name of an operation. -/
def driveSearch {ρ α : Type} (c : Convention) (operation : String) (play : SearchPlay α)
    (f : Searcher ρ α) (r : ρ) : Except Halt Outcome × ρ :=
  match play.run (c.callback (SearchProgress.ask f)) (c.callback (SearchProgress.give f))
      ({}, r) with
  | (complete, p, r) => (p.result operation complete, r)

end SymbolIndex
