import SymbolIndex.FileTree
import SymbolIndex.Contents.Format

/-!
# The disk

The contents of a store are a file of a fixed name in the store's directory.
-/

namespace SymbolIndex

/-- Why a store cannot be read. -/
inductive ReadError where
  /-- The path of the document does not lead to a file. -/
  | unreachable (e : PathError)
  /-- The file is there, but it is no store document. -/
  | invalid
deriving DecidableEq

namespace ReadError

/-- What kind of error it is. -/
def name : ReadError → String
  | unreachable e => e.name
  | invalid => "InvalidData"

def message : ReadError → String
  | unreachable e => e.message
  | invalid => "not a store document"

end ReadError

/-- A tree of files with text in them. -/
abbrev Disk := FileTree String

namespace Disk

/-- The name of the file that holds a store. -/
def documentName : String := "fixture.json"

/-- The path of the document of the store in a directory. -/
def documentPath (directory : String) : String := Path.join directory documentName

/-- The contents of the store in a directory. -/
def readStore (d : Disk) (directory : String) : Except ReadError StoreContents :=
  match d.readFile (documentPath directory) with
  | .error e => .error (.unreachable e)
  | .ok text =>
    match StoreContents.ofDocument? text with
    | some contents => .ok contents
    | none => .error .invalid

/-- Writes the contents of the store in a directory. -/
def writeStore (d : Disk) (directory : String) (contents : StoreContents) : Disk :=
  d.writeFile (documentPath directory) contents.document

/-- A disk with a directory, in which there is a document of a store or none. -/
def holding (directory : String) (document : Option String) : Disk :=
  let disk : Disk := FileTree.makeDirectory {} directory
  match document with
  | some text => disk.writeFile (documentPath directory) text
  | none => disk

end Disk

end SymbolIndex
