/-!
# Things by name
-/

namespace SymbolIndex

/-- Things, each with a name of its own. -/
structure Named (α : Type) where
  entries : List (String × α) := []

namespace Named

variable {α : Type}

def get? (n : Named α) (name : String) : Option α :=
  (n.entries.find? fun e => e.1 == name).map Prod.snd

def contains (n : Named α) (name : String) : Bool := (n.get? name).isSome

def erase (n : Named α) (name : String) : Named α where
  entries := n.entries.filter fun e => e.1 != name

/-- Gives a name to a thing. Another thing of that name is no longer there. -/
def insert (n : Named α) (name : String) (a : α) : Named α where
  entries := (n.erase name).entries ++ [(name, a)]

def names (n : Named α) : List String := n.entries.map Prod.fst

def values (n : Named α) : List α := n.entries.map Prod.snd

/-- Only the things with a property. -/
def filter (n : Named α) (keep : α → Bool) : Named α where
  entries := n.entries.filter fun e => keep e.2

end Named

end SymbolIndex
