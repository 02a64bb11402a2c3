import SymbolIndex.Invocation

/-!
# The command line

The document of the store is read from the file system and written back when it has changed.
-/

open SymbolIndex

/-- The text of a file, if it can be read. -/
def readDocument (path : String) : IO (Option String) :=
  try some <$> IO.FS.readFile path
  catch _ => return none

/-- Runs an invocation on the document of its store. -/
def serve (i : Invocation) : IO UInt32 := do
  let directory := i.store.getD ""
  let path := Disk.documentPath directory
  let document ← if i.store.isSome then readDocument path else pure none
  let (result, disk) := i.run (.holding directory document)
  match disk.readFile path with
  | .ok text => if document != some text then IO.FS.writeFile path text
  | .error _ => pure ()
  match result with
  | .ok text =>
    IO.print text
    return 0
  | .error message =>
    IO.eprintln message
    return 1

def main (arguments : List String) : IO UInt32 :=
  match Invocation.ofArguments arguments with
  | .ok i => serve i
  | .error e => do
    IO.eprintln e.message
    return 2
