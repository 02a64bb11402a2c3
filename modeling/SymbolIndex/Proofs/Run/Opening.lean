import SymbolIndex.Proofs.Run.Scene
import SymbolIndex.Proofs.Text.Utf8

/-!
# Opening a store

A client opens a store where there is a document of one, by a path without zeros and with options
of the same library or none. Otherwise it gets an error.
-/

namespace SymbolIndex

variable {s : Scene} {l : Library Archive} {path : String} {options : Option OptionsRef}

namespace Scene

/-- The options are not those of another library. -/
def Accepts (s : Scene) (l : Library Archive) (options : Option OptionsRef) : Prop :=
  ∀ o, options.bind s.1.option? = some o → o.library.same l = true

/-- The mappings of the options, if there are options. -/
def mappings (s : Scene) (options : Option OptionsRef) : List (String × String) :=
  ((options.bind s.1.option?).bind fun o => s.2.options.get? o.ref).getD []

/-- A store with some contents has been opened. -/
def opened (s : Scene) (l : Library Archive) (path : String) (options : Option OptionsRef)
    (contents : StoreContents) : Scene :=
  ({ s.1.note ⟨Path.ofText path, false⟩ with
      stores := s.1.stores ++ [{ store := ⟨l.withArchive l.convention, s.2.stores.next, path⟩ }] },
    { s.2 with
        stores := (s.2.stores.insert { path, mappings := s.mappings options, contents }).2 }.enter
      (Path.ofText path) fun t => { t with stores := t.stores.create })

end Scene

namespace Deed

/-- A store is opened where it can be read. -/
theorem run_openStore_of (haccepts : s.Accepts l options) (hzero : '\x00' ∉ path.toList)
    {contents : StoreContents} (hread : s.2.disk.readStore path = .ok contents) :
  (Deed.openStore l path options).run s = (.ok (), s.opened l path options contents)
  := by
  have hpath := Text.terminated?_eq_some.mpr ⟨hzero, rfl⟩
  have hforeign : ((options.bind s.1.option?).any fun o =>
      !o.library.same (l.withArchive l.convention)) = false := by
    cases ho : options.bind s.1.option? with
    | none => rfl
    | some o =>
        have hsame : o.library.same (l.withArchive l.convention) = true := haccepts o ho
        rw [Option.any_some, hsame]
        rfl
  have hmappings : ((options.bind s.1.option?).map Options.ref).bind s.2.options.get?
      = (options.bind s.1.option?).bind fun o => s.2.options.get? o.ref := by
    cases options.bind s.1.option? <;> rfl
  simp only [run, Scene.use, Store.openAt, Access.terminatedPath, hpath, hforeign,
    Bool.false_eq_true, ↓reduceIte]
  simp only [bind, Access.bind, pure, Access.pure, Access.step, Library.withArchive,
    Archive.backend, Archive.createStore, Text.decode_octets, hread, hmappings]
  rfl

/-- A store that has been opened could be read. -/
theorem of_run_openStore (h : ((Deed.openStore l path options).run s).1 = .ok ()) :
  s.Accepts l options ∧ '\x00' ∉ path.toList
    ∧ ∃ contents, s.2.disk.readStore path = .ok contents
  := by
  have hok : ∃ store a, Store.openAt (l.withArchive l.convention) path (options.bind s.1.option?)
      s.2 = (.ok store, a) := by
    simp only [run, Scene.use] at h
    rcases hresult : Store.openAt (l.withArchive l.convention) path (options.bind s.1.option?) s.2
      with ⟨e | store, a⟩
    · rw [hresult] at h
      cases h
    · exact ⟨store, a, rfl⟩
  obtain ⟨store, a, hopened⟩ := hok
  rw [Store.openAt] at hopened
  split at hopened
  case isTrue => cases hopened
  case isFalse hforeign =>
      constructor
      · intro o ho
        by_contra hother
        have hfalse : o.library.same (l.withArchive l.convention) = false :=
          Bool.eq_false_iff.mpr hother
        apply hforeign
        rw [ho, Option.any_some, hfalse]
        rfl
      · cases hpath : Text.terminated? path with
        | none =>
            simp only [Access.terminatedPath, hpath] at hopened
            cases hopened
        | some octets =>
            obtain ⟨hzero, rfl⟩ := Text.terminated?_eq_some.mp hpath
            refine ⟨hzero, ?_⟩
            cases hread : s.2.disk.readStore path with
            | ok contents => exact ⟨contents, rfl⟩
            | error e =>
                simp only [bind, Access.bind, Access.terminatedPath, hpath, Access.pure,
                  Access.step, Library.withArchive, Archive.backend, Archive.createStore,
                  Text.decode_octets, hread] at hopened
                cases hopened

end Deed

end SymbolIndex
