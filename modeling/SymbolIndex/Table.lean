/-!
# Tables of objects

A table hands out references to the objects put into it. References count up from zero, and none
is ever handed out again.
-/

namespace SymbolIndex

structure Table (α : Type) where
  /-- The reference of the next object. -/
  next : Nat := 0
  /-- The objects with their references. -/
  entries : List (Nat × α) := []

namespace Table

variable {α : Type}

def get? (t : Table α) (ref : Nat) : Option α :=
  (t.entries.find? fun e => e.1 == ref).map Prod.snd

/-- The reference of a new object, and the table with it. -/
def insert (t : Table α) (a : α) : Nat × Table α :=
  (t.next, { next := t.next + 1, entries := t.entries ++ [(t.next, a)] })

/-- Changes the object of a reference, if there is one. -/
def modify (t : Table α) (ref : Nat) (f : α → α) : Table α :=
  { t with entries := t.entries.map fun e => if e.1 = ref then (ref, f e.2) else e }

/-- Without the object of a reference. -/
def erase (t : Table α) (ref : Nat) : Table α :=
  { t with entries := t.entries.filter fun e => e.1 != ref }

/-- The objects, in the order in which they were put in. -/
def values (t : Table α) : List α := t.entries.map Prod.snd

end Table

end SymbolIndex
