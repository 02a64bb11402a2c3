import SymbolIndex.Discovery.LibraryFile
import SymbolIndex.Proofs.Discovery.Ways

/-!
# The library file that is found

A library file that is asked for, or that the environment names, is taken as it is, whatever there
is in the tree. Otherwise the library file stands beside the first compiler on the search path that
can be executed, where the compiler is at the end of all links; no other one is found if it does not
stand there.
-/

namespace SymbolIndex

namespace FileTree

variable {α : Type} {t : FileTree α} {text : String}

/-- A text leads to a file. -/
def HoldsFile (t : FileTree α) (text : String) : Prop :=
  ∃ path a, t.LeadsTo text path ∧ t.node? path = some (.file a)

theorem isFile_iff :
  t.isFile text = true ↔ t.HoldsFile text
  := by
  simp only [HoldsFile, ← locate_eq_ok, exists_comm (α := Path), ← readFile_eq_ok]
  rw [isFile]
  cases t.readFile text with
  | error e => simp [Except.isOk, Except.toBool]
  | ok a => simp [Except.isOk, Except.toBool]

end FileTree

namespace Surroundings

variable {s : Surroundings} {text : String} {program q : Path}

/-- A text leads to a program. -/
def Executes (s : Surroundings) (text : String) : Prop :=
  ∃ path, s.tree.LeadsTo text path ∧ s.tree.node? path = some (.file true)

/-- The first compiler on the search path that can be executed is the program at the path. -/
def Finds (s : Surroundings) (program : Path) : Prop :=
  ∃ before directory after, s.searchPath = before ++ directory :: after
    ∧ (∀ d ∈ before, ¬ s.Executes (s.compilerIn d))
    ∧ s.tree.LeadsTo (s.compilerIn directory) program
    ∧ s.tree.node? program = some (.file true)

/-- The text names the library file of the directory above the one of the compiler, and leads to a
file. -/
def Offers (s : Surroundings) (text : String) : Prop :=
  ∃ above directory name, s.Finds (above ++ [directory, name])
    ∧ text = Path.text (above ++ ["lib", "libIndexStore.so"]) ∧ s.tree.HoldsFile text

theorem isExecutable_iff :
  s.isExecutable text = true ↔ s.Executes text
  := by
  simp only [Executes, ← FileTree.locate_eq_ok, ← FileTree.readFile_eq_ok]
  rw [isExecutable]
  cases s.tree.readFile text <;> simp

theorem compiler?_eq_some :
  s.compiler? = some text
    ↔ ∃ before directory after, s.searchPath = before ++ directory :: after
      ∧ (∀ d ∈ before, ¬ s.Executes (s.compilerIn d))
      ∧ s.compilerIn directory = text ∧ s.Executes text
  := by
  simp only [compiler?, List.find?_map, Option.map_eq_some_iff, List.find?_eq_some_iff_append,
    Function.comp_apply, Bool.not_eq_true', ← Bool.not_eq_true, isExecutable_iff]
  constructor
  · rintro ⟨directory, ⟨hexecutes, before, after, hpath, hbefore⟩, rfl⟩
    exact ⟨before, directory, after, hpath, hbefore, rfl, hexecutes⟩
  · rintro ⟨before, directory, after, hpath, hbefore, rfl, hexecutes⟩
    exact ⟨directory, ⟨hexecutes, before, after, hpath, hbefore⟩, rfl⟩

/-- The program that is found is the one to which the text of the compiler leads. -/
theorem finds_iff :
  s.Finds program ↔ ∃ text, s.compiler? = some text ∧ s.tree.LeadsTo text program
  := by
  constructor
  · rintro ⟨before, directory, after, hpath, hbefore, hleads, hfile⟩
    refine ⟨_, compiler?_eq_some.mpr ⟨before, directory, after, hpath, hbefore, rfl, ?_⟩, hleads⟩
    exact ⟨program, hleads, hfile⟩
  · rintro ⟨text, hcompiler, hleads⟩
    obtain ⟨before, directory, after, hpath, hbefore, rfl, program', hleads', hfile⟩ :=
      compiler?_eq_some.mp hcompiler
    obtain rfl := hleads.unique hleads'
    exact ⟨before, directory, after, hpath, hbefore, hleads, hfile⟩

theorem libraryBeside?_eq_some :
  libraryBeside? program = some q
    ↔ ∃ above directory name, program = above ++ [directory, name]
      ∧ q = above ++ ["lib", "libIndexStore.so"]
  := by
  rw [libraryBeside?]
  constructor
  · intro h
    split at h
    case isTrue => cases h
    case isFalse hlong =>
        have hprogram : program ≠ [] := by
          rintro rfl
          exact hlong (by decide)
        have hdirectory : program.dropLast ≠ [] := by
          rw [← List.length_pos_iff, List.length_dropLast]
          omega
        refine ⟨program.dropLast.dropLast, program.dropLast.getLast hdirectory,
          program.getLast hprogram, ?_, (Option.some.inj h).symm⟩
        rw [List.append_cons, List.dropLast_concat_getLast, List.dropLast_concat_getLast]
  · rintro ⟨above, directory, name, rfl, rfl⟩
    rw [if_neg (by simp)]
    simp [libraryFileName]

theorem probe?_of_compiler (hcompiler : s.compiler? = some text)
    (hleads : s.tree.LeadsTo text program) :
  s.probe? = ((libraryBeside? program).map Path.text).filter s.tree.isFile
  := by
  rw [probe?, hcompiler]
  simp only [FileTree.locate_eq_ok.mpr hleads]

theorem probe?_eq_some :
  s.probe? = some text ↔ s.Offers text
  := by
  constructor
  · intro h
    cases hcompiler : s.compiler? with
    | none => simp [probe?, hcompiler] at h
    | some compiler =>
        obtain ⟨-, -, -, -, -, -, program, hleads, -⟩ := compiler?_eq_some.mp hcompiler
        rw [probe?_of_compiler hcompiler hleads, Option.filter_eq_some_iff,
          Option.map_eq_some_iff] at h
        obtain ⟨⟨q, hq, rfl⟩, hfile⟩ := h
        obtain ⟨above, directory, name, rfl, rfl⟩ := libraryBeside?_eq_some.mp hq
        exact ⟨above, directory, name, finds_iff.mpr ⟨compiler, hcompiler, hleads⟩, rfl,
          FileTree.isFile_iff.mp hfile⟩
  · rintro ⟨above, directory, name, hfinds, rfl, hfile⟩
    obtain ⟨compiler, hcompiler, hleads⟩ := finds_iff.mp hfinds
    have hbeside := libraryBeside?_eq_some.mpr ⟨above, directory, name, rfl, rfl⟩
    rw [probe?_of_compiler hcompiler hleads, hbeside]
    exact Option.filter_some_pos (FileTree.isFile_iff.mpr hfile)

/-- What is behind a directory with a compiler on the search path does not matter. -/
theorem compiler?_of_executes {directory : String} (h : s.Executes (s.compilerIn directory))
    (before after after' : List String) :
  compiler? { s with searchPath := before ++ directory :: after }
    = compiler? { s with searchPath := before ++ directory :: after' }
  := by
  have hexecutable : s.isExecutable (s.compilerIn directory) = true := isExecutable_iff.mpr h
  have hfound : ∀ after, ((before ++ directory :: after).map s.compilerIn).find? s.isExecutable
      = ((before.map s.compilerIn).find? s.isExecutable).or (some (s.compilerIn directory)) := by
    intro after
    rw [List.map_append, List.find?_append, List.map_cons, List.find?_cons_of_pos hexecutable]
  exact (hfound after).trans (hfound after').symm

end Surroundings

namespace LibraryConfig

variable {c : LibraryConfig} {s : Surroundings}

theorem libraryFile_of_path {path : String} (h : c.libraryPath = some path) (s : Surroundings) :
  c.libraryFile s = .ok path
  := by
  simp only [libraryFile, h]

theorem libraryFile_of_environment {value : String} (h : c.libraryPath = none)
    (hvalue : s.fromEnvironment = some value) (hwritten : value ≠ "") :
  c.libraryFile s = .ok value
  := by
  have hnamed : s.fromEnvironment.filter (· != "") = some value := by simp [hvalue, hwritten]
  simp only [libraryFile, h, hnamed]

theorem libraryFile_of_unnamed (h : c.libraryPath = none)
    (henvironment : s.fromEnvironment = none ∨ s.fromEnvironment = some "") :
  (∀ path, c.libraryFile s = .ok path ↔ s.Offers path)
    ∧ ((∀ path, ¬ s.Offers path) → ∃ message, c.libraryFile s = .error (.notFound message))
  := by
  have hunnamed : s.fromEnvironment.filter (· != "") = none := by
    rcases henvironment with h | h <;> simp [h]
  simp only [libraryFile, h, hunnamed, ← Surroundings.probe?_eq_some]
  cases s.probe? with
  | none => simp
  | some found => simp

/-- The search path matters by the compiler that is found on it. -/
theorem libraryFile_congr {s' : Surroundings} (htree : s'.tree = s.tree)
    (henvironment : s'.fromEnvironment = s.fromEnvironment)
    (hcompiler : s'.compiler? = s.compiler?) :
  c.libraryFile s' = c.libraryFile s
  := by
  simp only [libraryFile, Surroundings.probe?, htree, henvironment, hcompiler]

/-- One library file is taken. It is the one that is asked for, or else the one that the environment
names if it names any, whatever there is in the tree and on the search path. Otherwise it is the one
that the first compiler on the search path offers, where the compiler is the canonical path to which
the links lead; if there is none, the library is not found. What is on the search path behind a
directory with a compiler does not matter. -/
theorem libraryFile_determined (c : LibraryConfig) :
  (∀ path, c.libraryPath = some path → ∀ s, c.libraryFile s = .ok path)
    ∧ (∀ value, c.libraryPath = none → value ≠ "" →
        ∀ s, s.fromEnvironment = some value → c.libraryFile s = .ok value)
    ∧ (c.libraryPath = none → ∀ s, s.fromEnvironment = none ∨ s.fromEnvironment = some "" →
        (∀ path, c.libraryFile s = .ok path ↔ s.Offers path)
          ∧ ((∀ path, ¬ s.Offers path) → ∃ message, c.libraryFile s = .error (.notFound message)))
    ∧ (∀ s : Surroundings, ∀ program, s.Finds program →
        s.tree.Canonical program ∧ s.tree.Leads 0 [] (Path.steps program.text) program)
    ∧ ∀ s before directory after, s.searchPath = before ++ directory :: after →
        s.Executes (s.compilerIn directory) → ∀ after',
        c.libraryFile { s with searchPath := before ++ directory :: after' } = c.libraryFile s
  := by
  refine ⟨fun path h s => libraryFile_of_path h s, fun value h hwritten s hvalue => ?_,
    fun h s henvironment => libraryFile_of_unnamed h henvironment, ?_, ?_⟩
  · exact libraryFile_of_environment h hvalue hwritten
  · rintro s program ⟨_, _, _, _, _, hleads, _⟩
    exact ⟨hleads.canonical, hleads.canonical.leads_text⟩
  · rintro s before directory after hpath hexecutes after'
    apply libraryFile_congr
    · rfl
    · rfl
    · rw [Surroundings.compiler?_of_executes hexecutes before after' after, ← hpath]

/-- A compiler on the search path that is a link to another directory, with a library file beside
the link as well. -/
theorem libraryFile_determined_link :
  let tree : FileTree Bool := { entries := [
    (["usr"], .directory), (["usr", "bin"], .directory), (["usr", "lib"], .directory),
    (["usr", "bin", "swift"], .link "../../opt/bin/swift"),
    (["usr", "lib", "libIndexStore.so"], .file false),
    (["opt"], .directory), (["opt", "bin"], .directory), (["opt", "lib"], .directory),
    (["opt", "bin", "swift"], .file true), (["opt", "lib", "libIndexStore.so"], .file false)] }
  let s : Surroundings := { tree, searchPath := ["/usr/bin", "/opt/bin"] }
  let c : LibraryConfig := {}
  c.libraryPath = none ∧ s.fromEnvironment = none
    ∧ c.libraryFile s = .ok "/opt/lib/libIndexStore.so"
    ∧ s.Executes (s.compilerIn "/usr/bin")
    ∧ c.libraryFile { s with searchPath := ["/usr/bin"] } = c.libraryFile s
  := by
  intro tree s c
  have hplace : s.compilerIn "/usr/bin" = "/usr/bin/swift" := by decide +kernel
  have hdescends : ∀ c ∈ ["usr", "bin", "swift", "opt", "lib", "libIndexStore.so"],
      FileTree.Descends c := by
    have hnames : ∀ c ∈ ["usr", "bin", "swift", "opt", "lib", "libIndexStore.so"],
        c ≠ "." ∧ c ≠ ".." ∧ c.utf8ByteSize ≤ FileTree.componentLimit := by decide
    intro c hc
    obtain ⟨hdot, hup, hshort⟩ := hnames c hc
    exact ⟨hdot, hup, hshort⟩
  have hleads : tree.LeadsTo "/usr/bin/swift" ["opt", "bin", "swift"] := by
    have hsteps : Path.steps "/usr/bin/swift" = ["usr", "bin", "swift"] := by decide +kernel
    have htarget : Path.steps "../../opt/bin/swift" = ["..", "..", "opt", "bin", "swift"] := by
      decide +kernel
    have hrelative : ¬ "../../opt/bin/swift".startsWith "/" = true := by decide +kernel
    refine ⟨by decide, by decide, 1, by decide, ?_⟩
    rw [hsteps]
    apply FileTree.Leads.enter rfl (hdescends _ (by decide)) rfl (by simp)
    apply FileTree.Leads.enter rfl (hdescends _ (by decide)) rfl (by simp)
    apply FileTree.Leads.turn rfl (hdescends _ (by decide)) rfl
    rw [if_neg hrelative, htarget]
    apply FileTree.Leads.rise rfl
    apply FileTree.Leads.rise rfl
    apply FileTree.Leads.enter rfl (hdescends _ (by decide)) rfl (by simp)
    apply FileTree.Leads.enter rfl (hdescends _ (by decide)) rfl (by simp)
    apply FileTree.Leads.enter rfl (hdescends _ (by decide)) rfl (by simp)
    apply FileTree.Leads.arrived
  have hlibrary : tree.LeadsTo "/opt/lib/libIndexStore.so" ["opt", "lib", "libIndexStore.so"] := by
    have hsteps : Path.steps "/opt/lib/libIndexStore.so" = ["opt", "lib", "libIndexStore.so"] := by
      decide +kernel
    refine ⟨by decide, by decide, 0, by decide, ?_⟩
    rw [hsteps]
    apply FileTree.Leads.enter rfl (hdescends _ (by decide)) rfl (by simp)
    apply FileTree.Leads.enter rfl (hdescends _ (by decide)) rfl (by simp)
    apply FileTree.Leads.enter rfl (hdescends _ (by decide)) rfl (by simp)
    apply FileTree.Leads.arrived
  have hcompiler : tree.node? ["opt", "bin", "swift"] = some (.file true) := rfl
  have hfile : tree.node? ["opt", "lib", "libIndexStore.so"] = some (.file false) := rfl
  have hexecutes : s.Executes (s.compilerIn "/usr/bin") := by
    rw [hplace]
    exact ⟨_, hleads, hcompiler⟩
  have hfinds : s.Finds ["opt", "bin", "swift"] :=
    ⟨[], "/usr/bin", ["/opt/bin"], rfl, nofun, hplace ▸ hleads, hcompiler⟩
  have hoffers : s.Offers "/opt/lib/libIndexStore.so" :=
    ⟨["opt"], "bin", "swift", hfinds, by decide +kernel, _, _, hlibrary, hfile⟩
  obtain ⟨-, -, hunnamed, -, hbehind⟩ := libraryFile_determined c
  exact ⟨rfl, rfl, ((hunnamed rfl s (.inl rfl)).1 _).mpr hoffers, hexecutes,
    hbehind s [] "/usr/bin" ["/opt/bin"] rfl hexecutes []⟩

end LibraryConfig

end SymbolIndex
