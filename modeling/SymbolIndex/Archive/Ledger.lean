import SymbolIndex.Path

/-!
# The ledger

The ledger counts, for each directory, the objects that have been created and disposed of. It is
balanced where nothing is left that has not been disposed of.
-/

namespace SymbolIndex

/-- How many objects of a kind have been created, and how many have been disposed of. -/
structure Count where
  created : Nat := 0
  disposed : Nat := 0
deriving DecidableEq

namespace Count

def create (c : Count) : Count := { c with created := c.created + 1 }

def dispose (c : Count) : Count := { c with disposed := c.disposed + 1 }

def balanced (c : Count) : Bool := c.created == c.disposed

end Count

/-- What is counted for one directory. -/
structure Tally where
  stores : Count := {}
  recordReaders : Count := {}
  unitReaders : Count := {}
  errors : Count := {}
  /-- Event handlers that will not be used again. -/
  handlersFinalized : Nat := 0
  /-- How often the occurrences on some lines were asked for. -/
  lineRangeQueries : Nat := 0
deriving DecidableEq

/-- Every object has been disposed of. -/
def Tally.balanced (t : Tally) : Bool :=
  t.stores.balanced && t.recordReaders.balanced && t.unitReaders.balanced && t.errors.balanced

structure Ledger where
  tally : Path → Tally := fun _ => {}

/-- Changes what is counted for one directory. -/
def Ledger.enter (l : Ledger) (directory : Path) (f : Tally → Tally) : Ledger where
  tally path := if path = directory then f (l.tally path) else l.tally path

end SymbolIndex
