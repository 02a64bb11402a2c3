import SymbolIndex.Library.Access

/-!
# Options for opening stores

Options say how a store that is opened with them changes the beginnings of paths. The mappings
are kept here and in the library's own object, which a store reads when it is opened.
-/

namespace SymbolIndex

structure Options (σ : Type) where
  library : Library σ
  ref : OptionsRef
  /-- The mappings that have been added, first one first. -/
  mappings : List (String × String) := []

namespace Options

variable {σ : Type}

/-- Options without mappings. -/
def create (l : Library σ) : Access σ (Options σ) := fun s =>
  match l.backend.createOptions s with
  | (some ref, s) => (.ok { library := l, ref }, s)
  | (none, s) => (.error (.error (.breach "creation_options_create" .noHandle)), s)

/-- Options with one more mapping. -/
def add (o : Options σ) (source target : String) : Access σ (Options σ) := do
  let sourceOctets ← Access.terminated source
  let targetOctets ← Access.terminated target
  .change (o.library.backend.addMapping o.ref sourceOctets targetOctets)
  return { o with mappings := o.mappings ++ [(source, target)] }

def dispose (o : Options σ) : σ → σ := o.library.backend.disposeOptions o.ref

/-- One mapping as it is shown when options are looked into. -/
def inspectMapping (m : String × String) : String :=
  "(" ++ Text.quoted m.1 ++ ", " ++ Text.quoted m.2 ++ ")"

/-- The options as they are shown when they are looked into. -/
def inspect (o : Options σ) : String :=
  "CreationOptions \x7b prefix_mappings: [" ++ ", ".intercalate (o.mappings.map inspectMapping)
    ++ "] \x7d"

end Options

end SymbolIndex
