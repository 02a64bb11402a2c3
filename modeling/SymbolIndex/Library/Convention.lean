/-!
# Conventions of calling

A library that takes callbacks can be built to take closures. Every library takes a function
together with a context, which it hands back to the function at each call.
-/

namespace SymbolIndex

/-- How callbacks are passed to a library. -/
inductive Convention where
  /-- As closures. -/
  | closure
  /-- As a function, with a context that it is given at each call. -/
  | contextPointer
deriving DecidableEq

namespace Convention

def text : Convention → String
  | closure => "closure"
  | contextPointer => "context-pointer"

def identifier : Convention → String
  | closure => "Closure"
  | contextPointer => "ContextPointer"

end Convention

end SymbolIndex
