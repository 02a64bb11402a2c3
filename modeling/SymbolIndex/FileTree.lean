import SymbolIndex.Path

/-!
# Trees of files

A tree holds directories, files and links. A path is followed step by step from the root. A step
is taken from a directory only, and a link is replaced by the path to which it leads. Too many
links, such as those of a loop, lead nowhere.
-/

namespace SymbolIndex

/-- What stands at a path of a tree. -/
inductive TreeNode (α : Type) where
  | directory
  | file (contents : α)
  /-- A link to a path, from the root or from the directory of the link. -/
  | link (target : String)

/-- Why a path does not lead to a file. -/
inductive PathError where
  | missing
  /-- The path leads on from a file. -/
  | notADirectory
  /-- The path leads to a directory. -/
  | isADirectory
  /-- The path, or one of its components, has more octets than it may have. -/
  | nameTooLong
  | tooManyLinks
  /-- The path has a zero in it. -/
  | interiorZero
deriving DecidableEq

namespace PathError

/-- What kind of error it is. -/
def name : PathError → String
  | missing => "NotFound"
  | notADirectory => "NotADirectory"
  | isADirectory => "IsADirectory"
  | nameTooLong => "InvalidFilename"
  | tooManyLinks => "FilesystemLoop"
  | interiorZero => "InvalidInput"

def message : PathError → String
  | missing => "No such file or directory (os error 2)"
  | notADirectory => "Not a directory (os error 20)"
  | isADirectory => "Is a directory (os error 21)"
  | nameTooLong => "File name too long (os error 36)"
  | tooManyLinks => "Too many levels of symbolic links (os error 40)"
  | interiorZero => "file name contained an unexpected NUL byte"

end PathError

structure FileTree (α : Type) where
  /-- What stands at each path below the root, where anything does. -/
  entries : List (Path × TreeNode α) := []

namespace FileTree

variable {α : Type}

/-- What stands at a path. The root is a directory. -/
def node? (t : FileTree α) (path : Path) : Option (TreeNode α) :=
  if path = [] then some .directory
  else (t.entries.find? fun e => e.1 == path).map Prod.snd

/-! ### Following paths -/

/-- The most octets that a component may have. -/
def componentLimit : Nat := 255

/-- The number of octets that a path has to stay below. -/
def pathLimit : Nat := 4096

/-- The most links that a path may lead through. -/
def linkLimit : Nat := 40

/-- Takes steps from a directory on, through a limited number of links. The last step may reach
what is not there yet if something is to be made there. -/
def follow (t : FileTree α) (making : Bool) (links : Nat) (here : Path) :
    List String → Except PathError Path
  | [] => .ok here
  | c :: cs =>
    match t.node? here with
    | some .directory =>
      if c = "." then t.follow making links here cs
      else if c = ".." then t.follow making links here.dropLast cs
      else if componentLimit < c.utf8ByteSize then .error .nameTooLong
      else
        match t.node? (here ++ [c]), links with
        | none, _ => if making && cs.isEmpty then .ok (here ++ [c]) else .error .missing
        | some (.link target), links + 1 =>
          t.follow making links (if target.startsWith "/" then [] else here)
            (Path.steps target ++ cs)
        | some (.link _), 0 => .error .tooManyLinks
        | some _, links => t.follow making links (here ++ [c]) cs
    | _ => .error .notADirectory
termination_by cs => (links, cs.length)

/-- The path without links to which a text leads. -/
def locate (t : FileTree α) (making : Bool) (text : String) : Except PathError Path :=
  if text.contains '\x00' then .error .interiorZero
  else if pathLimit ≤ text.utf8ByteSize then .error .nameTooLong
  else t.follow making linkLimit [] (Path.steps text)

/-- The contents of a file. -/
def readFile (t : FileTree α) (text : String) : Except PathError α :=
  match t.locate false text with
  | .error e => .error e
  | .ok path =>
    match t.node? path with
    | some (.file contents) => .ok contents
    | _ => .error .isADirectory

/-- Whether a text leads to a file. -/
def isFile (t : FileTree α) (text : String) : Bool := (t.readFile text).isOk

/-! ### Making -/

/-- Puts a node at a path. -/
def put (t : FileTree α) (path : Path) (node : TreeNode α) : FileTree α where
  entries := (path, node) :: t.entries.filter fun e => e.1 != path

/-- Takes steps from a directory on, and makes the directories that are missing on the way. -/
def makeFrom (t : FileTree α) (here : Path) : List String → FileTree α
  | [] => t
  | c :: cs =>
    match t.follow false linkLimit here [c], t.node? (here ++ [c]) with
    | .ok next, _ => t.makeFrom next cs
    | .error .missing, none => (t.put (here ++ [c]) .directory).makeFrom (here ++ [c]) cs
    | .error _, _ => t

/-- Makes a directory and the directories around it. -/
def makeDirectory (t : FileTree α) (text : String) : FileTree α := t.makeFrom [] (Path.steps text)

/-- Makes the directories around what a text leads to. -/
def makeAround (t : FileTree α) (text : String) : FileTree α :=
  t.makeFrom [] (Path.steps text).dropLast

/-- Writes a file, at the end of all links. Nothing is written if its directory is not there, or
if a directory stands in its place. -/
def writeFile (t : FileTree α) (text : String) (contents : α) : FileTree α :=
  match t.locate true text with
  | .error _ => t
  | .ok path =>
    match t.node? path with
    | some .directory => t
    | _ => t.put path (.file contents)

/-- Makes a link in a directory that is there, where nothing stands yet. -/
def writeLink (t : FileTree α) (text target : String) : FileTree α :=
  match t.follow false linkLimit [] (Path.steps text).dropLast with
  | .error _ => t
  | .ok here =>
    let path := here ++ (Path.steps text).getLast?.toList
    if (t.node? path).isSome then t else t.put path (.link target)

/-- Removes a directory with everything in it. A directory that a text reaches by a dot at its end
is emptied only. -/
def removeDirectory (t : FileTree α) (text : String) : FileTree α :=
  match t.locate false text with
  | .error _ => t
  | .ok path =>
    match t.node? path with
    | some .directory =>
      let stays := (Path.parts text).getLast?.any fun c => c = "." || c = ".."
      { entries := t.entries.filter fun e => !path.isPrefixOf e.1 || stays && e.1 == path }
    | _ => t

end FileTree

end SymbolIndex
