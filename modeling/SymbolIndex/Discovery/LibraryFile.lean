import SymbolIndex.FileTree
import SymbolIndex.Library.Loading

/-!
# The library file

A library file that is asked for is used as it is, and so is one that the environment names.
Otherwise the library is looked for beside the compiler: the first executable compiler on the
search path, with all links to it followed, stands in a directory beside the one that holds the
library.
-/

namespace SymbolIndex

/-- What the library file is looked for in. -/
structure Surroundings where
  /-- The files that there are, each with whether it can be executed. -/
  tree : FileTree Bool := {}
  /-- The directory from which texts lead that do not begin at the root. -/
  workingDirectory : String := "/"
  /-- The directories in which programs are looked for. -/
  searchPath : List String := []
  /-- The value of the variable that names a library file, if it is set. -/
  fromEnvironment : Option String := none

/-- The variable that names a library file. -/
def libraryVariable : String := "INDEXSTORE_LIBRARY_PATH"

/-- The name of the library's file. -/
def libraryFileName : String := "libIndexStore.so"

namespace Surroundings

/-- The directories that a search path names when it is written as one text. -/
def directories (written : String) : List String := written.splitOn ":"

/-- Whether a text leads to a file that can be executed. -/
def isExecutable (s : Surroundings) (text : String) : Bool :=
  match s.tree.readFile text with
  | .ok executable => executable
  | .error _ => false

/-- Where the compiler stands if it is in a directory of the search path. -/
def compilerIn (s : Surroundings) (directory : String) : String :=
  Path.join (Path.join s.workingDirectory directory) "swift"

/-- The compiler: the first executable one on the search path. -/
def compiler? (s : Surroundings) : Option String :=
  (s.searchPath.map s.compilerIn).find? s.isExecutable

/-- The library file that belongs to a program. -/
def libraryBeside? (program : Path) : Option Path :=
  if program.length < 2 then none
  else some (program.dropLast.dropLast ++ ["lib", libraryFileName])

/-- The library file beside the compiler, if there is one. -/
def probe? (s : Surroundings) : Option String :=
  match s.compiler? with
  | none => none
  | some compiler =>
    match s.tree.locate false compiler with
    -- What can be executed leads somewhere.
    | .error _ => none
    | .ok program => ((libraryBeside? program).map Path.text).filter s.tree.isFile

end Surroundings

/-- The library file to load. -/
def LibraryConfig.libraryFile (c : LibraryConfig) (s : Surroundings) : Except LoadError String :=
  match c.libraryPath, s.fromEnvironment.filter (· != "") with
  | some path, _ => .ok path
  | none, some path => .ok path
  | none, none =>
    match s.probe? with
    | some path => .ok path
    | none => .error (.notFound
      ("no path configured, " ++ libraryVariable ++ " unset and no " ++ libraryFileName
        ++ " found in the active toolchain"))

end SymbolIndex
