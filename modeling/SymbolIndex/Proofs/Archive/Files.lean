import SymbolIndex.Archive.Disk
import SymbolIndex.Proofs.Contents.Document

/-!
# Files that are written and read

What is written where there can be a file is read there afterwards, at the end of the same links.
The other paths of the tree lead where they have led. So a store is read as it has been written.
-/

namespace SymbolIndex

/-- The node without what is written in it. -/
def TreeNode.blank {α : Type} : TreeNode α → TreeNode Unit
  | directory => .directory
  | file _ => .file ()
  | link target => .link target

namespace FileTree

variable {α : Type} {t : FileTree α} {path : Path} {a b : α}

theorem node?_put (node : TreeNode α) (hpath : path ≠ []) (q : Path) :
  (t.put path node).node? q = if q = path then some node else t.node? q
  := by
  by_cases hq : q = []
  · subst hq
    rw [if_neg hpath.symm, node?, node?, if_pos rfl, if_pos rfl]
  · simp only [node?, if_neg hq, put]
    split
    case isTrue heq =>
        subst heq
        have hfirst : ∀ entries : List (Path × TreeNode α),
            ((q, node) :: entries).find? (fun e => e.1 == q) = some (q, node) :=
          fun _ => List.find?_cons_of_pos (beq_self_eq_true q)
        rw [hfirst]
        rfl
    case isFalse hne =>
        have hother : ∀ e : Path × TreeNode α,
            decide ((e.1 != path) = true ∧ (e.1 == q) = true) = (e.1 == q) := by
          intro e
          by_cases he : e.1 = q
          · simp [he, hne]
          · simp [he]
        rw [List.find?_cons_of_neg (by simpa using Ne.symm hne), List.find?_filter]
        simp only [hother]

theorem ne_nil_of_file (hfile : t.node? path = some (.file a)) :
  path ≠ []
  := by
  rintro rfl
  cases hfile

/-- The second tree has what the first one has, but for what is written in files. -/
def SameWays (t t' : FileTree α) : Prop :=
  ∀ q n, t.node? q = some n → t'.node? q = some n
    ∨ ∃ a b, n = .file a ∧ t'.node? q = some (.file b)

theorem SameWays.node? {t' : FileTree α} (h : t.SameWays t') {q : Path} {n : TreeNode α}
    (hq : t.node? q = some n) (hn : ∀ a, n ≠ .file a) :
  t'.node? q = some n
  := by
  apply (h q n hq).resolve_right
  rintro ⟨a, b, hfile, -⟩
  exact hn a hfile

/-- A path that leads somewhere leads there in a tree with the same ways. A path that leads to
where something can be made leads there when a file has been made. -/
theorem SameWays.follow_of {t' : FileTree α} (h : t.SameWays t') {making making' : Bool}
    (hmade : making = true → ∃ a, t'.node? path = some (.file a)) {links : Nat} {here : Path}
    {cs : List String} (hpath : t.follow making links here cs = .ok path) :
  t'.follow making' links here cs = .ok path
  := by
  fun_induction t.follow making links here cs with
  | case1 links here => rw [FileTree.follow, hpath]
  | case2 links here cs hhere ih =>
      rw [FileTree.follow.eq_def]
      simp only [h.node? hhere nofun, ↓reduceIte]
      exact ih hpath
  | case3 links here cs hhere hdot ih =>
      rw [FileTree.follow.eq_def]
      simp only [h.node? hhere nofun, hdot, ↓reduceIte]
      exact ih hpath
  | case4 | case6 | case8 | case10 => cases hpath
  | case5 links here c cs hhere hdot hup hshort hnone hlast =>
      obtain ⟨hmaking, hempty⟩ := Bool.and_eq_true_iff.mp hlast
      obtain ⟨a, ha⟩ := hmade hmaking
      obtain rfl := List.isEmpty_iff.mp hempty
      obtain rfl := Except.ok.inj hpath
      rw [FileTree.follow.eq_def]
      simp only [h.node? hhere nofun, ha, hdot, hup, hshort, ↓reduceIte]
      rw [FileTree.follow]
  | case7 here c cs hhere hdot hup hshort target links hlink ih =>
      rw [FileTree.follow.eq_def]
      simp only [h.node? hhere nofun, h.node? hlink nofun, hdot, hup, hshort, ↓reduceIte]
      exact ih hpath
  | case9 here c cs hhere hdot hup hshort n links hlinks hnolinks hn ih =>
      rw [FileTree.follow.eq_def]
      simp only [h.node? hhere nofun, hdot, hup, hshort, ↓reduceIte]
      cases n with
      | directory =>
          simp only [h.node? hn nofun]
          exact ih hpath
      | file a =>
          obtain ⟨b, hb⟩ : ∃ b, t'.node? (here ++ [c]) = some (.file b) := by
            rcases h _ _ hn with hsame | ⟨_, b, -, hb⟩
            · exact ⟨a, hsame⟩
            · exact ⟨b, hb⟩
          simp only [hb]
          exact ih hpath
      | link target =>
          cases links with
          | zero => exact absurd rfl (hnolinks target rfl)
          | succ links => exact absurd rfl (hlinks target links rfl)

theorem SameWays.refl (t : FileTree α) :
  t.SameWays t
  := fun _ _ hq => .inl hq

/-- A file is put where there is a file or nothing. -/
theorem sameWays_put (hpath : path ≠ []) (hfile : ∀ n, t.node? path = some n → ∃ a, n = .file a)
    (b : α) :
  t.SameWays (t.put path (.file b))
  := by
  intro q n hq
  rw [node?_put _ hpath]
  split
  case isTrue heq =>
      subst heq
      obtain ⟨a, rfl⟩ := hfile n hq
      exact .inr ⟨a, b, rfl, rfl⟩
  case isFalse => exact .inl hq

theorem SameWays.locate_of {t' : FileTree α} (h : t.SameWays t') {making making' : Bool}
    (hmade : making = true → ∃ a, t'.node? path = some (.file a)) {text : String}
    (hpath : t.locate making text = .ok path) :
  t'.locate making' text = .ok path
  := by
  rw [FileTree.locate] at hpath ⊢
  split at hpath
  · cases hpath
  · split at hpath
    · cases hpath
    · rw [if_neg ‹_›, if_neg ‹_›]
      exact h.follow_of hmade hpath

theorem SameWays.locate {t' : FileTree α} (h : t.SameWays t') (making : Bool) {text : String}
    (hpath : t.locate false text = .ok path) :
  t'.locate making text = .ok path
  := by
  apply h.locate_of _ hpath
  nofun

theorem readFile_eq_ok {text : String} :
  t.readFile text = .ok a
    ↔ ∃ path, t.locate false text = .ok path ∧ t.node? path = some (.file a)
  := by
  rw [readFile]
  cases hpath : t.locate false text with
  | error e => simp
  | ok path =>
      simp only [Except.ok.injEq, exists_eq_left']
      split
      case h_1 contents hfile => simp [hfile]
      case h_2 hother =>
          constructor
          · nofun
          · intro hfile
            exact absurd hfile (hother a)

/-- Where there is a file, it is put where the path leads. -/
theorem writeFile_of_file {text : String} (hpath : t.locate false text = .ok path)
    (hfile : t.node? path = some (.file a)) (b : α) :
  t.writeFile text b = t.put path (.file b)
  := by
  simp only [writeFile, (SameWays.refl t).locate true hpath, hfile]

/-! ### Writing -/

theorem put_put (path : Path) (node node' : TreeNode α) :
  (t.put path node).put path node' = t.put path node'
  := by
  simp only [put, bne_self_eq_false, Bool.false_eq_true, not_false_eq_true, List.filter_cons_of_neg,
    List.filter_filter, Bool.and_self]

/-- Everything around a path is a directory. -/
def Enclosed (t : FileTree α) (path : Path) : Prop :=
  ∀ q, q <+: path → q ≠ path → t.node? q = some .directory

theorem Enclosed.dropLast (h : t.Enclosed path) :
  t.Enclosed path.dropLast ∧ ∀ target, t.node? path.dropLast ≠ some (.link target)
  := by
  by_cases hpath : path = []
  · subst hpath
    exact ⟨h, nofun⟩
  · have hlt : path.dropLast.length < path.length := by
      have hpos := List.length_pos_iff.mpr hpath
      rw [List.length_dropLast]
      omega
    have hne : ∀ q, q <+: path.dropLast → q ≠ path := by
      rintro q hq rfl
      exact absurd hq.length_le (by omega)
    have hprefix := path.dropLast_prefix
    refine ⟨fun q hq _ => h q (hq.trans hprefix) (hne q hq), fun target htarget => ?_⟩
    rw [h _ hprefix (hne _ List.prefix_rfl)] at htarget
    cases htarget

theorem Enclosed.append (h : t.Enclosed path) (hhere : t.node? path = some .directory)
    (c : String) :
  t.Enclosed (path ++ [c])
  := by
  intro q hq hne
  rcases List.prefix_concat_iff.mp hq with heq | hq
  · exact absurd heq hne
  · by_cases heq : q = path
    · rw [heq, hhere]
    · exact h q hq heq

/-- No path leads to a link. -/
theorem follow_ne_link {making : Bool} {links : Nat} {here : Path} {cs : List String}
    (hhere : t.Enclosed here) (hnode : ∀ target, t.node? here ≠ some (.link target))
    (hpath : t.follow making links here cs = .ok path) (target : String) :
  t.node? path ≠ some (.link target)
  := by
  fun_induction t.follow making links here cs with
  | case1 links here =>
      obtain rfl := Except.ok.inj hpath
      exact hnode target
  | case2 links here cs _ ih => exact ih hhere hnode hpath
  | case3 links here cs _ _ ih => exact ih hhere.dropLast.1 hhere.dropLast.2 hpath
  | case4 | case6 | case8 | case10 => cases hpath
  | case5 links here c cs _ _ _ _ hnone _ =>
      obtain rfl := Except.ok.inj hpath
      rw [hnone]
      nofun
  | case7 here c cs _ _ _ _ leads links _ ih =>
      have hroot : t.Enclosed [] := fun q hq hne => absurd (List.prefix_nil.mp hq) hne
      apply ih _ _ hpath
      · split
        · exact hroot
        · exact hhere
      · split
        · nofun
        · exact hnode
  | case9 here c cs hdirectory _ _ _ n links hlinks hnolinks hn ih =>
      apply ih (hhere.append hdirectory c) _ hpath
      intro target hlink
      obtain rfl := Option.some.inj (hn.symm.trans hlink)
      cases links with
      | zero => exact hnolinks target rfl rfl
      | succ links => exact hlinks target links rfl rfl

theorem locate_ne_link {making : Bool} {text : String} (hpath : t.locate making text = .ok path)
    (target : String) :
  t.node? path ≠ some (.link target)
  := by
  rw [locate] at hpath
  split at hpath
  · cases hpath
  · split at hpath
    · cases hpath
    · apply follow_ne_link _ _ hpath
      · exact fun q hq hne => absurd (List.prefix_nil.mp hq) hne
      · nofun

/-- A file can be written where a text leads: there is a file or nothing. -/
def Writable (t : FileTree α) (text : String) : Prop :=
  ∃ path, t.locate true text = .ok path ∧ t.node? path ≠ some .directory

theorem writeFile_of_not_writable {text : String} (h : ¬ t.Writable text) (a : α) :
  t.writeFile text a = t
  := by
  rw [writeFile]
  split
  case h_1 => rfl
  case h_2 path hpath =>
      split
      case h_1 => rfl
      case h_2 hdirectory => exact absurd ⟨path, hpath, hdirectory⟩ h

/-- What is written is put where the text leads, and the text leads there afterwards. -/
theorem writeFile_of_writable {text : String} (h : t.Writable text) (a : α) :
  ∃ path, (∀ b, t.writeFile text b = t.put path (.file b))
    ∧ (t.writeFile text a).node? path = some (.file a)
    ∧ ∀ making, (t.writeFile text a).locate making text = .ok path
  := by
  obtain ⟨path, hpath, hdirectory⟩ := h
  have hput : ∀ b, t.writeFile text b = t.put path (.file b) := fun b => by
    simp only [writeFile, hpath]
  have hroot : path ≠ [] := by
    rintro rfl
    exact hdirectory rfl
  have hfile : ∀ n, t.node? path = some n → ∃ a, n = .file a := by
    intro n hn
    cases n with
    | directory => exact absurd hn hdirectory
    | file a => exact ⟨a, rfl⟩
    | link target => exact absurd hn (locate_ne_link hpath target)
  have hmade : (t.put path (.file a)).node? path = some (.file a) := by
    rw [node?_put _ hroot, if_pos rfl]
  refine ⟨path, hput, ?_, fun making => ?_⟩
  · rw [hput, hmade]
  · rw [hput]
    exact (sameWays_put hroot hfile a).locate_of (fun _ => ⟨a, hmade⟩) hpath

/-- What is written to one path twice is there as it has been written last. -/
theorem writeFile_writeFile (t : FileTree α) (text : String) (a b : α) :
  (t.writeFile text a).writeFile text b = t.writeFile text b
  := by
  by_cases h : t.Writable text
  · obtain ⟨path, hput, hmade, hagain⟩ := writeFile_of_writable h a
    rw [hput b, writeFile, hagain]
    simp only [hmade]
    rw [hput a, put_put]
  · rw [writeFile_of_not_writable h]

/-- A file that is written where there may be one is read as it has been written. -/
theorem readFile_of_writable {text : String} (h : t.Writable text) (a : α) :
  (t.writeFile text a).readFile text = .ok a
  := by
  obtain ⟨path, -, hmade, hagain⟩ := writeFile_of_writable h a
  exact readFile_eq_ok.mpr ⟨path, hagain false, hmade⟩

/-! ### Trees that differ in files alone -/

variable {t' : FileTree α} {q : Path}

/-- The trees have the same nodes, but for what is written in files. -/
def Alike (t t' : FileTree α) : Prop :=
  ∀ q, (t.node? q).map TreeNode.blank = (t'.node? q).map TreeNode.blank

namespace Alike

variable (h : t.Alike t')

include h

theorem symm :
  t'.Alike t
  := fun q => (h q).symm

theorem node?_none (hq : t.node? q = none) :
  t'.node? q = none
  := by
  have hsame := h q
  rw [hq] at hsame
  exact Option.map_eq_none_iff.mp hsame.symm

theorem sameWays :
  t.SameWays t'
  := by
  intro q n hq
  have hsame := h q
  rw [hq] at hsame
  obtain ⟨n', hq', hblank⟩ := Option.map_eq_some_iff.mp hsame.symm
  cases n <;> cases n' <;> cases hblank
  · exact .inl hq'
  · exact .inr ⟨_, _, rfl, hq'⟩
  · exact .inl hq'

theorem node?_directory (hq : t.node? q = some .directory) :
  t'.node? q = some .directory
  := by
  apply h.sameWays.node? hq
  intro a hfile
  cases hfile

theorem node?_link {target : String} (hq : t.node? q = some (.link target)) :
  t'.node? q = some (.link target)
  := by
  apply h.sameWays.node? hq
  intro a hfile
  cases hfile

/-- Paths lead to the same places, or nowhere for the same reasons. -/
theorem follow_eq (making : Bool) (links : Nat) (here : Path) (cs : List String) :
  t'.follow making links here cs = t.follow making links here cs
  := by
  fun_induction t.follow making links here cs with
  | case1 links here => rw [FileTree.follow]
  | case2 links here cs hhere ih =>
      rw [FileTree.follow.eq_def]
      simp only [h.node?_directory hhere, ↓reduceIte]
      exact ih
  | case3 links here cs hhere hdot ih =>
      rw [FileTree.follow.eq_def]
      simp only [h.node?_directory hhere, hdot, ↓reduceIte]
      exact ih
  | case4 links here c cs hhere hdot hup hlong =>
      rw [FileTree.follow.eq_def]
      simp only [h.node?_directory hhere, hdot, hup, hlong, ↓reduceIte]
  | case5 links here c cs hhere hdot hup hshort hnone hlast =>
      rw [FileTree.follow.eq_def]
      simp only [h.node?_directory hhere, hdot, hup, hshort, h.node?_none hnone, hlast, ↓reduceIte]
  | case6 links here c cs hhere hdot hup hshort hnone hlast =>
      rw [FileTree.follow.eq_def]
      simp only [h.node?_directory hhere, hdot, hup, hshort, h.node?_none hnone, hlast, ↓reduceIte]
      rfl
  | case7 here c cs hhere hdot hup hshort target links hlink ih =>
      rw [FileTree.follow.eq_def]
      simp only [h.node?_directory hhere, h.node?_link hlink, hdot, hup, hshort, ↓reduceIte]
      exact ih
  | case8 here c cs hhere hdot hup hshort target hlink =>
      rw [FileTree.follow.eq_def]
      simp only [h.node?_directory hhere, h.node?_link hlink, hdot, hup, hshort, ↓reduceIte]
  | case9 here c cs hhere hdot hup hshort n links hlinks hnolinks hn ih =>
      rw [FileTree.follow.eq_def]
      simp only [h.node?_directory hhere, hdot, hup, hshort, ↓reduceIte]
      cases n with
      | directory =>
          simp only [h.node?_directory hn]
          exact ih
      | file a =>
          obtain ⟨b, hb⟩ : ∃ b, t'.node? (here ++ [c]) = some (.file b) := by
            rcases h.sameWays _ _ hn with hsame | ⟨_, b, -, hb⟩
            · exact ⟨a, hsame⟩
            · exact ⟨b, hb⟩
          simp only [hb]
          exact ih
      | link target =>
          cases links with
          | zero => exact absurd rfl (hnolinks target rfl)
          | succ links => exact absurd rfl (hlinks target links rfl)
  | case10 links here c cs hhere =>
      have hhere' : t'.node? here ≠ some .directory :=
        fun hdirectory => hhere (h.symm.node?_directory hdirectory)
      rw [FileTree.follow.eq_def]
      dsimp only
      split
      case h_1 hdirectory => exact absurd hdirectory hhere'
      case h_2 => rfl

theorem locate_eq (making : Bool) (text : String) :
  t'.locate making text = t.locate making text
  := by
  rw [FileTree.locate, FileTree.locate, h.follow_eq]

end Alike

/-- A file may be put in the place of a file. -/
theorem alike_put {a : α} (hfile : t.node? q = some (.file a)) (b : α) :
  t.Alike (t.put q (.file b))
  := by
  intro q'
  rw [node?_put _ (ne_nil_of_file hfile)]
  split
  case isTrue heq =>
      rw [heq, hfile]
      rfl
  case isFalse => rfl

end FileTree

namespace Disk

variable {d : Disk} {directory : String} {c : StoreContents}

/-- What is read as a store is a file. -/
theorem file_of_readStore (h : d.readStore directory = .ok c) :
  ∃ place text, d.locate false (documentPath directory) = .ok place
    ∧ d.node? place = some (.file text)
  := by
  rw [readStore] at h
  split at h
  case h_1 => cases h
  case h_2 text hread =>
      obtain ⟨place, hplace, hfile⟩ := FileTree.readFile_eq_ok.mp hread
      exact ⟨place, text, hplace, hfile⟩

/-- Directories of which the documents are one file, or nothing for the same reason. -/
def Shares (d : Disk) (directory directory' : String) : Prop :=
  d.locate false (documentPath directory) = d.locate false (documentPath directory')

instance (d : Disk) (directory directory' : String) : Decidable (d.Shares directory directory') :=
  inferInstanceAs (Decidable (_ = _))

theorem alike_writeStore (h : d.readStore directory = .ok c) (c' : StoreContents) :
  d.Alike (d.writeStore directory c')
  := by
  obtain ⟨place, text, hplace, hfile⟩ := file_of_readStore h
  rw [writeStore, FileTree.writeFile_of_file hplace hfile]
  exact FileTree.alike_put hfile _

/-- What is written in a directory is read in the directories that share its document. -/
theorem readStore_writeStore_eq (h : d.readStore directory = .ok c) (c' : StoreContents)
    (directory' : String) :
  (d.writeStore directory c').readStore directory'
    = if d.Shares directory directory' then .ok c' else d.readStore directory'
  := by
  obtain ⟨place, text, hplace, hfile⟩ := file_of_readStore h
  have hnode := FileTree.node?_put (t := d) (.file c'.document) (FileTree.ne_nil_of_file hfile)
  rw [writeStore, FileTree.writeFile_of_file hplace hfile, readStore, readStore, FileTree.readFile,
    FileTree.readFile, (FileTree.alike_put hfile _).locate_eq]
  simp only [Shares, hplace]
  cases hplace' : d.locate false (documentPath directory') with
  | error e => simp
  | ok place' =>
      by_cases heq : place' = place
      · simp [heq, hnode, StoreContents.ofDocument?_document]
      · simp [heq, Ne.symm heq, hnode]

/-- A store that can be read is read as it has been written last. -/
theorem readStore_writeStore (h : d.readStore directory = .ok c) (c' : StoreContents) :
  (d.writeStore directory c').readStore directory = .ok c'
  := by
  have hshares : d.Shares directory directory := rfl
  rw [readStore_writeStore_eq h, if_pos hshares]

/-- A store that is written twice is on the disk as it has been written last. -/
theorem writeStore_writeStore (d : Disk) (directory : String) (c c' : StoreContents) :
  (d.writeStore directory c).writeStore directory c' = d.writeStore directory c'
  := d.writeFile_writeFile (documentPath directory) c.document c'.document

/-! ### A directory with a store -/

/-- A document can be written in a directory that is there. -/
theorem writable_stores :
  (holding "stores" none).Writable (documentPath "stores")
  := by
  have hpath : documentPath "stores" = "stores/fixture.json" := by decide +kernel
  have hsteps : Path.steps "stores" = ["stores"] := by decide +kernel
  have hsteps' : Path.steps "stores/fixture.json" = ["stores", "fixture.json"] := by decide +kernel
  have hlimit : ¬ FileTree.pathLimit ≤ "stores/fixture.json".utf8ByteSize := by decide +kernel
  have hcomponent : ¬ FileTree.componentLimit < "stores".utf8ByteSize := by decide +kernel
  have hcomponent' : ¬ FileTree.componentLimit < "fixture.json".utf8ByteSize := by decide +kernel
  -- A path is followed by recursion on the links that are left, which does not compute.
  have hdisk : holding "stores" none = { entries := [(["stores"], .directory)] } := by
    simp [holding, FileTree.makeDirectory, FileTree.makeFrom, FileTree.follow, FileTree.node?,
      FileTree.put, hsteps, hcomponent]
  rw [hdisk]
  refine ⟨["stores", "fixture.json"], ?_, ?_⟩
  · simp [FileTree.locate, FileTree.follow, FileTree.node?, hpath, hsteps', hlimit, hcomponent,
      hcomponent']
  · simp [FileTree.node?]

/-- The document of a store is read as it has been written. -/
theorem readStore_holding {text : String} (h : StoreContents.ofDocument? text = some c) :
  (holding "stores" (some text)).readStore "stores" = .ok c
  := by
  have hwritten : holding "stores" (some text)
      = (holding "stores" none).writeFile (documentPath "stores") text := rfl
  rw [readStore, hwritten, FileTree.readFile_of_writable writable_stores]
  simp only [h]

/-- A document says all that is in a store, and where a document can be written the store is read
as it has been written. -/
theorem contents_survive (c : StoreContents) (d : Disk) (directory : String) :
  StoreContents.ofDocument? c.document = some c
    ∧ (d.Writable (documentPath directory) →
      (d.writeStore directory c).readStore directory = .ok c)
  := by
  have hdocument := c.ofDocument?_document
  refine ⟨hdocument, fun h => ?_⟩
  rw [readStore, writeStore, FileTree.readFile_of_writable h]
  simp only [hdocument]

/-- The ends of the integers and every kind of octet survive in a directory that has been empty. A
main file without a name stays apart from none. -/
theorem contents_survive_stores :
  let c : StoreContents :=
    { units := [
        { name := "\"quoted\" \\ back/slash\n\t\x00\x1f\x7f é 𝔘"
          mainFile := some ""
          modified := ⟨-9223372036854775808, 9223372036854775807⟩
          dependencies := [{ kind := 4294967295, isSystem := true, name := "\"" }]
          includes := [⟨"a", "b", 4294967295⟩] },
        { mainFile := none }]
      records := [
        { symbols := [{ roles := 18446744073709551615 }]
          occurrences := [{ symbol := 18446744073709551615, relations := [⟨0, 1⟩] }] }]
      listenFault := .succeedWithError }
  let d : Disk := .holding "stores" none
  d.Writable (documentPath "stores") ∧ (d.writeStore "stores" c).readStore "stores" = .ok c
  := by
  intro c d
  exact ⟨writable_stores, (contents_survive c d "stores").2 writable_stores⟩

end Disk

end SymbolIndex
