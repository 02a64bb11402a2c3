/-!
# Mapping the beginnings of paths

A mapping replaces one beginning of a path by another. Of several mappings the first one whose
beginning the path has is used, once.
-/

namespace SymbolIndex

/-- The path without the given beginning, if it has that beginning. -/
def withoutBeginning? (beginning path : String) : Option String :=
  if beginning.toList.isPrefixOf path.toList then
    some (String.ofList (path.toList.drop beginning.toList.length))
  else none

/-- Changes the beginning of a path by the first mapping that applies. -/
def remap : List (String × String) → String → String
  | [], path => path
  | (source, target) :: mappings, path =>
    match withoutBeginning? source path with
    | some rest => target ++ rest
    | none => remap mappings path

end SymbolIndex
