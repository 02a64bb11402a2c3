import SymbolIndex.Faults.Plan

/-!
# Faulty plays

The play of a library that breaks its rules, made from the play of one that keeps them.
-/

namespace SymbolIndex

namespace Play

variable {α : Type}

/-- The play with the faults of a listing, after some items have been handed over. Where it is cut
off, the play is told to stop and the applier hears nothing. -/
def distort (f : ListingFault) : Play α → Nat → Play α
  | finish complete, _ => .finish (f.returns.getD complete)
  | deliver a next, n =>
    if f.truncate = some n then (next false).distort f n
    else .deliver a fun proceed => (next (proceed || f.ignoreStop)).distort f (n + 1)

/-- The play with others in place of its first items. -/
def replace : List α → Play α → Play α
  | _, finish complete => .finish complete
  | [], deliver a next => .deliver a fun proceed => (next proceed).replace []
  | b :: bs, deliver _ next => .deliver b fun proceed => (next proceed).replace bs

end Play

namespace SearchPlay

variable {α β : Type}

def map (f : α → β) : SearchPlay α → SearchPlay β
  | finish complete => .finish complete
  | ask a next => .ask (f a) fun v => (next v).map f
  | give a next => .give (f a) (next.map f)

/-- Gives some items to the receiver and goes on. -/
def giveAll : List α → SearchPlay α → SearchPlay α
  | [], play => play
  | a :: as, play => .give a (giveAll as play)

/-- The verdict of which the play hears. -/
def heard (f : SearchFault) (v : Verdict) : Verdict where
  accept := v.accept || f.receiveAll
  stop := v.stop && !f.hideStop && !f.ignoreStop

/-- The play with the faults of a search. The items that are yet to be given are known, last
first. -/
def distort (f : SearchFault) : SearchPlay α → List α → SearchPlay α
  | finish complete, late => giveAll late.reverse (.finish (f.returns.getD complete))
  | ask a next, late => .ask a fun v => (next (heard f v)).distort f late
  | give a next, late =>
    if f.skipReceiver then next.distort f late
    else if f.receiveLate then next.distort f (a :: late)
    else if f.receiveTwice then .give a (.give a (next.distort f late))
    else .give a (next.distort f late)

end SearchPlay

end SymbolIndex
