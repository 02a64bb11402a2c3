import SymbolIndex.Proofs.Archive.Files
import SymbolIndex.Proofs.Path

/-!
# Ways through a tree

A text leads along a way of single steps: it stays, it goes up, it enters what stands in a
directory, or it turns off where a link leads. A way ends at a canonical path: what is around it are
directories, it is no link itself, and its components are names. So the text of a canonical path
leads back to the path, through no links.
-/

namespace SymbolIndex

namespace FileTree

variable {α : Type}

/-! ### Steps -/

/-- A component that goes down, and is not too long. -/
structure Descends (c : String) : Prop where
  dot : c ≠ "."
  up : c ≠ ".."
  short : c.utf8ByteSize ≤ componentLimit

/-- Steps lead from a directory to a path, through a number of links. -/
inductive Leads (t : FileTree α) : Nat → Path → List String → Path → Prop where
  | arrived (path : Path) : t.Leads 0 path [] path
  | stay {n : Nat} {here path : Path} {cs : List String}
      (hhere : t.node? here = some .directory) (h : t.Leads n here cs path) :
      t.Leads n here ("." :: cs) path
  | rise {n : Nat} {here path : Path} {cs : List String}
      (hhere : t.node? here = some .directory) (h : t.Leads n here.dropLast cs path) :
      t.Leads n here (".." :: cs) path
  | enter {n : Nat} {here path : Path} {c : String} {cs : List String} {node : TreeNode α}
      (hhere : t.node? here = some .directory) (hc : Descends c)
      (hnode : t.node? (here ++ [c]) = some node) (hlink : ∀ target, node ≠ .link target)
      (h : t.Leads n (here ++ [c]) cs path) : t.Leads n here (c :: cs) path
  | turn {n : Nat} {here path : Path} {c target : String} {cs : List String}
      (hhere : t.node? here = some .directory) (hc : Descends c)
      (hnode : t.node? (here ++ [c]) = some (.link target))
      (h : t.Leads n (if target.startsWith "/" then [] else here) (Path.steps target ++ cs) path) :
      t.Leads (n + 1) here (c :: cs) path

variable {t : FileTree α} {n links : Nat} {here path : Path} {cs : List String} {text : String}

/-- What is followed is a way that leads through no more links than it may. -/
theorem leads_of_follow (h : t.follow false links here cs = .ok path) :
  ∃ n ≤ links, t.Leads n here cs path
  := by
  fun_induction t.follow false links here cs with
  | case1 links here =>
      obtain rfl := Except.ok.inj h
      exact ⟨0, Nat.zero_le _, .arrived here⟩
  | case2 links here cs hhere ih =>
      obtain ⟨n, hn, hleads⟩ := ih h
      exact ⟨n, hn, .stay hhere hleads⟩
  | case3 links here cs hhere _ ih =>
      obtain ⟨n, hn, hleads⟩ := ih h
      exact ⟨n, hn, .rise hhere hleads⟩
  | case4 | case6 | case8 | case10 => cases h
  | case5 links here c cs _ _ _ _ _ hmaking => cases hmaking
  | case7 here c cs hhere hdot hup hshort target links hnode ih =>
      obtain ⟨n, hn, hleads⟩ := ih h
      have hc : Descends c := ⟨hdot, hup, Nat.le_of_not_lt hshort⟩
      exact ⟨n + 1, Nat.succ_le_succ hn, .turn hhere hc hnode hleads⟩
  | case9 here c cs hhere hdot hup hshort node links hlinks hnolinks hnode ih =>
      obtain ⟨n, hn, hleads⟩ := ih h
      refine ⟨n, hn, .enter hhere ⟨hdot, hup, Nat.le_of_not_lt hshort⟩ hnode ?_ hleads⟩
      rintro target rfl
      cases links with
      | zero => exact hnolinks target rfl rfl
      | succ links => exact hlinks target links rfl rfl

/-- A way is followed if it leads through no more links than it may. -/
theorem Leads.follow (h : t.Leads n here cs path) (hn : n ≤ links) :
  t.follow false links here cs = .ok path
  := by
  induction h generalizing links with
  | arrived path => rw [FileTree.follow]
  | stay hhere _ ih =>
      rw [FileTree.follow.eq_def]
      simp only [hhere, ↓reduceIte]
      exact ih hn
  | rise hhere _ ih =>
      rw [FileTree.follow.eq_def]
      simp only [hhere, String.reduceEq, ↓reduceIte]
      exact ih hn
  | @enter _ _ _ _ _ node hhere hc hnode hlink _ ih =>
      rw [FileTree.follow.eq_def]
      cases node with
      | link target => exact absurd rfl (hlink target)
      | directory | file =>
          simp only [hhere, hnode, hc.dot, hc.up, hc.short.not_gt, ↓reduceIte]
          exact ih hn
  | turn hhere hc hnode _ ih =>
      obtain ⟨links, rfl⟩ := Nat.exists_eq_add_of_le' (Nat.le_of_add_left_le hn)
      rw [FileTree.follow.eq_def]
      simp only [hhere, hnode, hc.dot, hc.up, hc.short.not_gt, ↓reduceIte]
      exact ih (Nat.le_of_succ_le_succ hn)

theorem follow_eq_ok :
  t.follow false links here cs = .ok path ↔ ∃ n ≤ links, t.Leads n here cs path
  := by
  constructor
  · exact leads_of_follow
  · rintro ⟨n, hn, h⟩
    exact h.follow hn

/-- A text leads from the root to a path, if it is not too long and through no more links than it
may. -/
def LeadsTo (t : FileTree α) (text : String) (path : Path) : Prop :=
  '\x00' ∉ text.toList ∧ text.utf8ByteSize < pathLimit
    ∧ ∃ n ≤ linkLimit, t.Leads n [] (Path.steps text) path

theorem locate_eq_ok :
  t.locate false text = .ok path ↔ t.LeadsTo text path
  := by
  rw [locate, LeadsTo, ← follow_eq_ok]
  split
  case isTrue hzero => simpa using fun h => absurd hzero (by simpa using h)
  case isFalse hzero =>
      have hzero' : '\x00' ∉ text.toList := by simpa using hzero
      split
      case isTrue hlong => simp [hlong.not_gt]
      case isFalse hshort => simp [hzero', Nat.lt_of_not_le hshort]

/-- A text leads to at most one path. -/
theorem LeadsTo.unique {path' : Path} (h : t.LeadsTo text path) (h' : t.LeadsTo text path') :
  path = path'
  := Except.ok.inj ((locate_eq_ok.mpr h).symm.trans (locate_eq_ok.mpr h'))

/-! ### Canonical paths -/

/-- A path without detours: what is around it are directories, what is at it is no link, and it goes
down all the way. -/
structure Canonical (t : FileTree α) (path : Path) : Prop where
  enclosed : t.Enclosed path
  stands : ∃ node, t.node? path = some node ∧ ∀ target, node ≠ .link target
  parts : ∀ c ∈ path, Path.IsPart c
  descends : ∀ c ∈ path, Descends c

theorem canonical_root (t : FileTree α) :
  t.Canonical []
  where
  enclosed _ hq hne := absurd (List.prefix_nil.mp hq) hne
  stands := ⟨.directory, rfl, nofun⟩
  parts := nofun
  descends := nofun

theorem Canonical.dropLast (h : t.Canonical path) :
  t.Canonical path.dropLast
  := by
  by_cases hpath : path = []
  · rw [hpath]
    exact canonical_root t
  · have hne : path.dropLast ≠ path := fun heq => by
      have hlength := congrArg List.length heq
      have hpos := List.length_pos_iff.mpr hpath
      rw [List.length_dropLast] at hlength
      omega
    exact {
      enclosed := h.enclosed.dropLast.1
      stands := ⟨.directory, h.enclosed _ path.dropLast_prefix hne, nofun⟩
      parts := fun c hc => h.parts c (path.dropLast_subset hc)
      descends := fun c hc => h.descends c (path.dropLast_subset hc) }

theorem Canonical.append {c : String} {node : TreeNode α} (h : t.Canonical path)
    (hpath : t.node? path = some .directory) (hc : Descends c) (hpart : Path.IsPart c)
    (hnode : t.node? (path ++ [c]) = some node) (hlink : ∀ target, node ≠ .link target) :
  t.Canonical (path ++ [c])
  where
  enclosed := h.enclosed.append hpath c
  stands := ⟨node, hnode, hlink⟩
  parts := by simpa [or_imp, forall_and] using ⟨h.parts, hpart⟩
  descends := by simpa [or_imp, forall_and] using ⟨h.descends, hc⟩

/-- A way that begins at a canonical path ends at one. -/
theorem Leads.canonical (h : t.Leads n here cs path) (hhere : t.Canonical here)
    (hcs : ∀ c ∈ cs, Path.IsPart c) :
  t.Canonical path
  := by
  induction h with
  | arrived path => exact hhere
  | stay _ _ ih => exact ih hhere fun c hc => hcs c (List.mem_cons_of_mem _ hc)
  | rise _ _ ih => exact ih hhere.dropLast fun c hc => hcs c (List.mem_cons_of_mem _ hc)
  | enter hdirectory hc hnode hlink _ ih =>
      have hpart := hcs _ List.mem_cons_self
      exact ih (hhere.append hdirectory hc hpart hnode hlink)
        fun c hc => hcs c (List.mem_cons_of_mem _ hc)
  | turn hdirectory hc hnode _ ih =>
      apply ih
      · split
        · exact canonical_root t
        · exact hhere
      · intro c hc
        rcases List.mem_append.mp hc with hc | hc
        · exact Path.isPart_of_mem_steps hc
        · exact hcs c (List.mem_cons_of_mem _ hc)

/-- A text leads to a canonical path only. -/
theorem LeadsTo.canonical (h : t.LeadsTo text path) :
  t.Canonical path
  := by
  obtain ⟨-, -, n, -, hleads⟩ := h
  exact hleads.canonical (canonical_root t) fun c => Path.isPart_of_mem_steps

/-- A canonical path leads to itself through no links. -/
theorem Canonical.leads (h : t.Canonical path) :
  t.Leads 0 [] path path
  := by
  have hrest : ∀ rest here, here ++ rest = path → t.Leads 0 here rest path := by
    intro rest
    induction rest with
    | nil =>
        rintro here rfl
        rw [List.append_nil]
        exact .arrived here
    | cons c rest ih =>
        intro here hpath
        have hnext : here ++ [c] ++ rest = path := by rw [← hpath, List.append_assoc]; rfl
        have hhere : t.node? here = some .directory := by
          apply h.enclosed here ⟨c :: rest, hpath⟩
          rintro rfl
          simp at hpath
        have hc : c ∈ path := by simp [← hpath]
        by_cases hlast : here ++ [c] = path
        · obtain ⟨node, hnode, hlink⟩ := h.stands
          rw [← hlast] at hnode
          exact .enter hhere (h.descends c hc) hnode hlink (ih _ hnext)
        · have hnode := h.enclosed _ ⟨rest, hnext⟩ hlast
          exact .enter hhere (h.descends c hc) hnode nofun (ih _ hnext)
  exact hrest path [] rfl

/-- The text of a canonical path leads back to the path through no links. -/
theorem Canonical.leads_text (h : t.Canonical path) :
  t.Leads 0 [] (Path.steps path.text) path
  := by
  by_cases hpath : path = []
  · have hroot : Path.steps (Path.text []) = ["."] := by decide +kernel
    rw [hpath, hroot]
    exact .stay rfl (.arrived [])
  · rw [Path.steps_text hpath h.parts]
    exact h.leads

end FileTree

end SymbolIndex
