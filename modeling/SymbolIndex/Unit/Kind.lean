import SymbolIndex.Vocabulary

/-!
# Kinds of dependencies and events

What a unit depends on, and what can happen to a unit.
-/

namespace SymbolIndex

/-- What a unit depends on. -/
inductive DependencyKind where
  | unit
  | record
  | file
deriving DecidableEq

def DependencyKind.word : DependencyKind → Word
  | unit => ⟨1, "unit", "Unit"⟩
  | record => ⟨2, "record", "Record"⟩
  | file => ⟨3, "file", "File"⟩

instance : Vocabulary DependencyKind where
  label := "unit dependency kind"
  all := [
    .unit, .record, .file]
  word := DependencyKind.word

/-- What has happened to a unit. -/
inductive UnitEventKind where
  | added
  | removed
  | modified
  | directoryDeleted
deriving DecidableEq

def UnitEventKind.word : UnitEventKind → Word
  | added => ⟨1, "added", "Added"⟩
  | removed => ⟨2, "removed", "Removed"⟩
  | modified => ⟨3, "modified", "Modified"⟩
  | directoryDeleted => ⟨4, "directory-deleted", "DirectoryDeleted"⟩

instance : Vocabulary UnitEventKind where
  label := "unit event kind"
  all := [
    .added, .removed, .modified, .directoryDeleted]
  word := UnitEventKind.word

end SymbolIndex
