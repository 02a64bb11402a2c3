/-!
# Paths

A path is written as text. Its components, without empty ones and dots, say which path it is, so
that a path can be written in several ways; going up is a component like any other. The root and a
dot are components at the beginning of a text. The steps of a text say how it is followed: a dot
stays where it is, and a slash at the end is such a dot.
-/

namespace SymbolIndex

/-- The components of a path. -/
abbrev Path := List String

namespace Path

/-- What stands between the slashes of a text. -/
def parts (text : String) : List String :=
  ((text.toList.splitOn '/').map String.ofList).filter (· != "")

/-- The path that a text writes. The root is written as a slash at the beginning. -/
def ofText (text : String) : Path :=
  let names := (parts text).filter (· != ".")
  if text.startsWith "/" then "/" :: names
  else if (parts text).head? = some "." then "." :: names
  else names

/-- The steps by which the path of a text is followed. -/
def steps (text : String) : List String :=
  if text.endsWith "/" then parts text ++ ["."] else parts text

/-- The text of a path below the root. -/
def text (path : Path) : String := "/" ++ "/".intercalate path

/-- The text for something inside a directory. A text that begins at the root stays as it is. -/
def join (directory name : String) : String :=
  if name.startsWith "/" then name
  else if directory.endsWith "/" then directory ++ name
  else directory ++ "/" ++ name

end Path

end SymbolIndex
