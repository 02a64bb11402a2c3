import SymbolIndex.Callback
import SymbolIndex.Error

/-!
# Traversals

A library hands the items of a traversal to an applier, one at a time, and goes on as the applier
replies. Nothing is assumed of the library: it may hand over any items, may go on after a stop,
and may report anything in the end. `drive` runs an applier against it, passed as a callback of
either convention. The applier sees nothing after its first stop or panic, the library is told to
stop from then on, and what the library has done decides how the traversal ends.
-/

namespace SymbolIndex

/-- What a library does in one traversal: it hands over an item and goes on by the reply, or it
returns whether every item has been handed over. -/
inductive Play (α : Type) where
  | finish (complete : Bool)
  | deliver (item : α) (next : Bool → Play α)

namespace Play

/-- The play that hands over the items of a list and obeys a stop. -/
def each {α : Type} : List α → Play α
  | [] => .finish true
  | a :: as => .deliver a fun proceed => if proceed then each as else .finish false

def map {α β : Type} (f : α → β) : Play α → Play β
  | finish complete => .finish complete
  | deliver a next => .deliver (f a) fun proceed => (next proceed).map f

end Play

/-- The reply of an applier to an item. -/
inductive Reply where
  | proceed
  | stop
  | panic (message : String)

/-- A function that takes an item and replies, with a state of its own. -/
abbrev Applier (ρ α : Type) := α → ρ → Reply × ρ

/-- How a traversal that did not fail has ended. -/
inductive Outcome where
  | completed
  | stopped
deriving DecidableEq

/-- What is known of a traversal while it runs. -/
structure Progress where
  /-- The applier has asked to stop, or has panicked. -/
  stopped : Bool := false
  /-- The number of items that came after that. -/
  late : Nat := 0
  /-- The panic of the applier. -/
  panic : Option String := none

namespace Progress

/-- What is done with an item, and the answer to the library. -/
def dispatch {ρ α : Type} (f : Applier ρ α) : Routine α (Progress × ρ) Bool :=
  fun item (p, r) =>
    if p.stopped then (false, { p with late := p.late + 1 }, r)
    else
      match f item r with
      | (.proceed, r) => (true, p, r)
      | (.stop, r) => (false, { p with stopped := true }, r)
      | (.panic message, r) => (false, { p with stopped := true, panic := some message }, r)

/-- How a traversal ends, given what its library has returned. -/
def result (operation : String) (p : Progress) (complete : Bool) : Except Halt Outcome :=
  match p.panic with
  | some message => .error (.panic message)
  | none =>
    if 0 < p.late then .error (.error (.breach operation (.appliedAfterStop p.late)))
    else
      match complete, p.stopped with
      | true, false => .ok .completed
      | false, true => .ok .stopped
      | false, false => .error (.error (.traversalFailed operation))
      | true, true => .error (.error (.breach operation .completedAfterStop))

end Progress

/-- Runs a play with the callback that its library has been given. -/
def Play.run {α S : Type} (callback : Callback α S Bool) : Play α → S → Bool × S
  | finish complete, s => (complete, s)
  | deliver a next, s =>
    match callback.call a s with
    | (proceed, s) => (next proceed).run callback s

/-- Runs an applier against a play, under the name of an operation. -/
def drive {ρ α : Type} (c : Convention) (operation : String) (play : Play α) (f : Applier ρ α)
    (r : ρ) : Except Halt Outcome × ρ :=
  match play.run (c.callback (Progress.dispatch f)) ({}, r) with
  | (complete, p, r) => (p.result operation complete, r)

end SymbolIndex
