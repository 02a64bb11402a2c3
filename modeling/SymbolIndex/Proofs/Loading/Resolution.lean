import Mathlib.Data.List.Basic
import SymbolIndex.Library.Loading

/-!
# Resolution of symbols

A source may keep something in mind, but what it finds can be said by a map if no look-up panics.
Then looking up operations is reading the map: the required ones are all found or the first missing
one is told, and a table can be put together if its names are those of operations that have been
found. The names of the two tables are those of the catalogue.
-/

namespace SymbolIndex

variable {α : Type}

/-! ### Symbols -/

theorem Operation.symbol_eq (o : Operation) :
  o.symbol = "indexstore_" ++ o.name
  := rfl

/-- No two operations have one name. -/
theorem Operation.nodup_names :
  (catalogue.map Operation.name).Nodup
  := by decide +kernel

/-- The class of closures is not exported as an operation. -/
theorem Operation.symbol_ne_closureClassSymbol (o : Operation) :
  o.symbol ≠ closureClassSymbol
  := by
  intro h
  have hfirst := congrArg (fun s => s.toList.head?) h
  simp [symbol, exportedSymbol, closureClassSymbol] at hfirst

theorem Operation.symbol_inj {o o' : Operation} :
  o.symbol = o'.symbol ↔ o.name = o'.name
  := String.append_right_inj _

/-! ### Tables -/

theorem EntryTable.required_eq :
  EntryTable.required = Operation.requiredOnes.map Operation.name
  := rfl

theorem EntryTable.closures_eq :
  EntryTable.closures = Operation.optionalOnes.map Operation.name
  := rfl

/-- A table whose names have all been resolved is put together from their addresses. -/
theorem EntryTable.assemble_of_resolved {resolved : List (String × α)} {names : List String}
    (h : ∀ name ∈ names, (resolved.lookup name).isSome) :
  ∃ entries, assemble resolved names = .ok entries
    ∧ entries.map Prod.fst = names
    ∧ ∀ e ∈ entries, resolved.lookup e.1 = some e.2
  := by
  induction names with
  | nil => exact ⟨[], rfl, rfl, by simp⟩
  | cons name names ih =>
      obtain ⟨a, ha⟩ := Option.isSome_iff_exists.mp (h name List.mem_cons_self)
      obtain ⟨entries, hassemble, hnames, hentries⟩ := ih fun n hn => h n (List.mem_cons_of_mem _ hn)
      use (name, a) :: entries
      constructor
      · simp [assemble, entry, ha, hassemble]
      · constructor
        · simp [hnames]
        · intro e he
          rcases List.mem_cons.mp he with rfl | he
          · apply ha
          · apply hentries e he

namespace SymbolSource

/-! ### What is found of some operations -/

/-- The addresses of the operations that are found, under their names. -/
def found (map : String → Option α) (os : List Operation) : List (String × α) :=
  os.filterMap fun o => (map o.symbol).map fun a => (o.name, a)

/-- The symbols of the operations that are missing. -/
def missing (map : String → Option α) (os : List Operation) : List String :=
  (os.filter fun o => (map o.symbol).isNone).map Operation.symbol

/-- A name is resolved to the address of its symbol. -/
theorem lookup_found (map : String → Option α) {os : List Operation} {name : String}
    (h : name ∈ os.map Operation.name) :
  (found map os).lookup name = map (exportedSymbol name)
  := by
  -- Operations of one name have one symbol, so a name that is not resolved at its first operation
  -- is not resolved at a later one either.
  induction os with
  | nil => cases h
  | cons o os ih =>
      cases hmap : map o.symbol with
      | some a =>
          simp only [found, List.filterMap_cons, hmap, Option.map_some, List.lookup_cons]
          by_cases hname : name = o.name
          · simp [hname, ← hmap, Operation.symbol]
          · rw [beq_false_of_ne hname]
            simp only [List.map_cons, List.mem_cons, hname, false_or] at h
            apply ih h
      | none =>
          simp only [found, List.filterMap_cons, hmap, Option.map_none]
          by_cases hrest : name ∈ os.map Operation.name
          · apply ih hrest
          · simp only [List.map_cons, List.mem_cons, hrest, or_false] at h
            have hlookup : (found map os).lookup name = none := by
              rw [List.lookup_eq_none_iff]
              intro e he
              obtain ⟨o', ho', hfound⟩ := List.mem_filterMap.mp he
              obtain ⟨a, -, rfl⟩ := Option.map_eq_some_iff.mp hfound
              rw [bne_iff_ne]
              rintro rfl
              apply hrest
              apply List.mem_map_of_mem ho'
            rw [found] at hlookup
            rw [hlookup, h, ← hmap]
            rfl

theorem missing_eq_nil_iff (map : String → Option α) (os : List Operation) :
  missing map os = [] ↔ ∀ o ∈ os, (map o.symbol).isSome
  := by
  simp [missing, List.filter_eq_nil_iff, Option.isSome_iff_ne_none]

/-- If every operation is found, a table with their names can be put together. -/
theorem assemble_found {map : String → Option α} {os : List Operation} {names : List String}
    (hnames : names = os.map Operation.name) (hall : ∀ o ∈ os, (map o.symbol).isSome) :
  ∃ entries, EntryTable.assemble (found map os) names = .ok entries
    ∧ entries.map Prod.fst = names
    ∧ ∀ e ∈ entries, map (exportedSymbol e.1) = some e.2
  := by
  subst hnames
  have hresolved : ∀ name ∈ os.map Operation.name, ((found map os).lookup name).isSome := by
    intro name hname
    rw [lookup_found map hname]
    obtain ⟨o, ho, rfl⟩ := List.mem_map.mp hname
    apply hall o ho
  obtain ⟨entries, hassemble, hfst, hentries⟩ := EntryTable.assemble_of_resolved hresolved
  refine ⟨entries, hassemble, hfst, ?_⟩
  intro e he
  have hname : e.1 ∈ os.map Operation.name := by
    rw [← hfst]
    apply List.mem_map_of_mem he
  rw [← lookup_found map hname]
  apply hentries e he

/-! ### Look-ups by a source that never panics -/

/-- What is kept in mind after some operations have been looked up. -/
def afterLooking {M : Type} (step : String → M → M) (os : List Operation) (m : M) : M :=
  os.foldl (fun m o => step o.symbol m) m

variable {source : SymbolSource α} {map : String → Option α}
    {step : String → source.Memory → source.Memory}
    (serves : ∀ symbol m, source.lookup symbol m = .ok (map symbol, step symbol m))

include serves

theorem look_eq (symbol : String) (m : source.Memory) :
  source.look symbol m = .ok (map symbol, step symbol m)
  := by
  rw [look, serves]
  rfl

/-- The first operation that is missing ends the look-up of required operations. -/
theorem required_eq (os : List Operation) (m : source.Memory) :
  source.required os m
    = match os.find? fun o => (map o.symbol).isNone with
      | some o => .error (.error (.load (.missingSymbol o.symbol)))
      | none => .ok (found map os, afterLooking step os m)
  := by
  induction os generalizing m with
  | nil => rfl
  | cons o os ih =>
      simp only [required, look_eq serves, bind, Except.bind, pure, Except.pure]
      cases hmap : map o.symbol with
      | none => simp [hmap]
      | some a =>
          simp only [ih, List.find?_cons, hmap, Option.isNone_some]
          cases os.find? fun o => (map o.symbol).isNone with
          | some o' => rfl
          | none => simp [found, afterLooking, hmap]

theorem optional_eq (os : List Operation) (m : source.Memory) :
  source.optional os m = .ok ((found map os, missing map os), afterLooking step os m)
  := by
  induction os generalizing m with
  | nil => rfl
  | cons o os ih =>
      simp only [optional, look_eq serves, ih, bind, Except.bind, pure, Except.pure]
      cases hmap : map o.symbol with
      | none => simp [found, missing, afterLooking, hmap]
      | some a => simp [found, missing, afterLooking, hmap]

/-- The table of the operations for closures is there exactly if all of them are found, with the
class of closures. -/
theorem closureTable_eq (m : source.Memory) :
  ∃ closures,
    source.closureTable m
        = .ok (closures, step closureClassSymbol (afterLooking step Operation.optionalOnes m))
      ∧ (closures.isSome ↔ (∀ o ∈ Operation.optionalOnes, (map o.symbol).isSome)
          ∧ (map closureClassSymbol).isSome)
      ∧ ∀ t ∈ closures, map closureClassSymbol = some t.closureClass
          ∧ t.entries.map Prod.fst = EntryTable.closures
          ∧ ∀ e ∈ t.entries, map (exportedSymbol e.1) = some e.2
  := by
  simp only [closureTable, optional_eq serves, look_eq serves, bind, Except.bind, pure,
    Except.pure]
  rw [← missing_eq_nil_iff]
  cases hclass : map closureClassSymbol with
  | none =>
      use none
      simp
  | some c =>
      cases hmissing : missing map Operation.optionalOnes with
      | cons symbol symbols =>
          use none
          simp
      | nil =>
          obtain ⟨entries, hassemble, hnames, hentries⟩ := assemble_found
            EntryTable.closures_eq ((missing_eq_nil_iff map _).mp hmissing)
          use some ⟨c, entries⟩
          constructor
          · simp [hassemble]
          · constructor
            · simp
            · rintro t ⟨rfl⟩
              exact ⟨rfl, hnames, hentries⟩

end SymbolSource

end SymbolIndex
