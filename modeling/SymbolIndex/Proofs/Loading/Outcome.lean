import Mathlib.Data.List.Nodup
import SymbolIndex.Library.InProcess
import SymbolIndex.Proofs.Loading.Resolution

/-!
# How loading ends

How loading ends is determined by the map of the symbols that are found, by the numbers that are
reported as versions, and by what is asked for. A missing symbol comes first, then the version,
then the format version. A library that is loaded has complete tables. A library of the process is
loaded by its own versions, whatever other libraries have reported before.
-/

namespace SymbolIndex

variable {α : Type}

/-- The loaded library has the addresses of a map of symbols. It takes closures if every symbol
for them is there, and is passed closures if it takes them and they are preferred. -/
structure LoadedLibrary.Serves (l : LoadedLibrary α) (map : String → Option α)
    (config : LibraryConfig) : Prop where
  names : l.entries.map Prod.fst = Operation.requiredOnes.map Operation.name
  addresses : ∀ e ∈ l.entries, map ("indexstore_" ++ e.1) = some e.2
  hasClosures : l.closures.isSome
    ↔ (∀ o ∈ Operation.optionalOnes, (map ("indexstore_" ++ o.name)).isSome)
      ∧ (map "_NSConcreteStackBlock").isSome
  closureClass : ∀ t ∈ l.closures, map "_NSConcreteStackBlock" = some t.closureClass
  closureNames : ∀ t ∈ l.closures,
    t.entries.map Prod.fst = Operation.optionalOnes.map Operation.name
  closureAddresses : ∀ t ∈ l.closures, ∀ e ∈ t.entries, map ("indexstore_" ++ e.1) = some e.2
  convention : l.convention = .closure ↔ l.closures.isSome ∧ config.preferClosures = true

/-- How loading ends when the symbols of a map are found and two numbers are reported. -/
def LoadingEnds (path : String) (map : String → Option α) (raw format : UInt32)
    (config : LibraryConfig) (result : Except Halt (LoadedLibrary α)) : Prop :=
  let reported := Version.decode raw
  match Operation.requiredOnes.find? fun o => (map ("indexstore_" ++ o.name)).isNone with
  | some o => result = .error (.error (.load (.missingSymbol ("indexstore_" ++ o.name))))
  | none =>
    if config.requiredVersion.major = reported.major
        ∧ config.requiredVersion.minor ≤ reported.minor then
      match config.requiredFormatVersion.filter (· ≠ format) with
      | some required => result = .error (.error (.version (.formatMismatch required format)))
      | none => ∃ loaded, result = .ok loaded
          ∧ loaded.path = path ∧ loaded.version = reported ∧ loaded.formatVersion = format
          ∧ loaded.Serves map config
    else
      result = .error (.error (.version (.incompatible "API" config.requiredVersion reported)))

namespace SymbolSource

variable {source : SymbolSource α} {map : String → Option α}
    {step : String → source.Memory → source.Memory}

/-- What is kept in mind when the versions are asked for. -/
def afterLoading {M : Type} (step : String → M → M) (m : M) : M :=
  step closureClassSymbol
    (afterLooking step Operation.optionalOnes (afterLooking step Operation.requiredOnes m))

theorem servedBy_iff (required reported : Version) :
  required.servedBy reported = true
    ↔ required.major = reported.major ∧ required.minor ≤ reported.minor
  := by
  simp [Version.servedBy]

theorem checkFormat_eq (required : Option UInt32) (format : UInt32) :
  checkFormat required format
    = match required.filter (· ≠ format) with
      | some r => .error (.formatMismatch r format)
      | none => .ok ()
  := by
  cases required with
  | none => rfl
  | some r =>
      by_cases h : r = format
      · simp [checkFormat, Option.filter, h]
      · simp [checkFormat, Option.filter, h]

/-- Loading ends as the map and the versions that are reported in the end say. -/
theorem load_ends (serves : ∀ symbol m, source.lookup symbol m = .ok (map symbol, step symbol m))
    (config : LibraryConfig) {raw format : UInt32}
    (hversion : Operation.requiredOnes.find? (fun o => (map o.symbol).isNone) = none →
      source.version (afterLoading step source.memory) = raw
        ∧ source.formatVersion (afterLoading step source.memory) = format) :
  LoadingEnds source.path map raw format config (source.load config)
  := by
  rw [LoadingEnds, load]
  simp only [← Operation.symbol_eq, required_eq serves, bind, Except.bind, pure, Except.pure]
  cases hmissing : Operation.requiredOnes.find? fun o => (map o.symbol).isNone with
  | some o => rfl
  | none =>
      obtain ⟨hraw, hformat⟩ := hversion hmissing
      have hall : ∀ o ∈ Operation.requiredOnes, (map o.symbol).isSome := by
        simpa [List.find?_eq_none, Option.isSome_iff_ne_none] using hmissing
      obtain ⟨entries, hassemble, hnames, hentries⟩ := assemble_found EntryTable.required_eq hall
      obtain ⟨closures, htable, hsome, hclosures⟩ := closureTable_eq serves
        (afterLooking step Operation.requiredOnes source.memory)
      rw [afterLoading] at hraw hformat
      simp only [hassemble, Except.mapError, htable, hraw, hformat, checkVersion, checkFormat_eq]
      by_cases hserved : config.requiredVersion.servedBy (Version.decode raw) = true
      · rw [if_pos ((servedBy_iff _ _).mp hserved), if_pos hserved]
        cases config.requiredFormatVersion.filter (· ≠ format) with
        | some required => rfl
        | none =>
            refine ⟨_, rfl, rfl, rfl, rfl, ?_⟩
            exact {
              names := hnames.trans EntryTable.required_eq
              addresses := hentries
              hasClosures := hsome
              closureClass := fun t ht => (hclosures t ht).1
              closureNames := fun t ht => (hclosures t ht).2.1.trans EntryTable.closures_eq
              closureAddresses := fun t ht => (hclosures t ht).2.2
              convention := by cases config.preferClosures <;> cases closures <;> simp }
      · have hnot := mt (servedBy_iff config.requiredVersion (Version.decode raw)).mpr hserved
        rw [if_neg hnot, if_neg hserved]

end SymbolSource

namespace InProcessLibrary

open SymbolSource

variable (l : InProcessLibrary)

/-- An operation is found under its symbol. -/
theorem operation?_symbol {o : Operation} (ho : o ∈ Operation.catalogue) :
  operation? o.symbol = some o
  := by
  have hfound : (operation? o.symbol).isSome := by
    rw [operation?, List.find?_isSome]
    exact ⟨o, ho, beq_self_eq_true _⟩
  obtain ⟨o', ho'⟩ := Option.isSome_iff_exists.mp hfound
  have hsymbol : o'.symbol = o.symbol := by simpa using List.find?_some ho'
  have hsame := List.inj_on_of_nodup_map Operation.nodup_names (List.mem_of_find?_eq_some ho') ho
    (Operation.symbol_inj.mp hsymbol)
  rw [ho', hsame]

/-- A library exports the symbols that are not hidden: those of its operations and, if it is built
for closures, that of the class of closures. Only then the operations for closures are among them. -/
theorem exported?_eq_some {symbol address : String} :
  l.exported? symbol = some address
    ↔ symbol = address ∧ symbol ∉ l.hidden
      ∧ (symbol = "_NSConcreteStackBlock" ∧ l.closures = true
        ∨ ∃ o ∈ Operation.catalogue, symbol = "indexstore_" ++ o.name
          ∧ (o.optional = true → l.closures = true))
  := by
  by_cases hhidden : symbol ∈ l.hidden
  · simp [exported?, hhidden]
  · have hshown : l.hidden.contains symbol = false := by simpa using hhidden
    simp only [exported?, hshown, Bool.false_eq_true, if_false, hhidden, not_false_eq_true,
      true_and]
    by_cases hclass : symbol = closureClassSymbol
    · have hnone : ¬ ∃ o ∈ Operation.catalogue, symbol = "indexstore_" ++ o.name
          ∧ (o.optional = true → l.closures = true) := by
        rintro ⟨o, -, hsymbol, -⟩
        exact o.symbol_ne_closureClassSymbol (hsymbol.symm.trans hclass)
      have hliteral : symbol = "_NSConcreteStackBlock" := hclass
      rw [if_pos hclass, or_iff_left hnone, and_iff_right hliteral]
      cases l.closures <;> simp
    · rw [if_neg hclass, or_iff_right (fun h => hclass h.1)]
      cases hoperation : operation? symbol with
      | none =>
          have hnone : ¬ ∃ o ∈ Operation.catalogue, symbol = "indexstore_" ++ o.name
              ∧ (o.optional = true → l.closures = true) := by
            rintro ⟨o, ho, rfl, -⟩
            rw [← o.symbol_eq, operation?_symbol ho] at hoperation
            cases hoperation
          simp [hnone]
      | some o =>
          have ho := List.mem_of_find?_eq_some hoperation
          have hsymbol : o.symbol = symbol := by simpa using List.find?_some hoperation
          have hone : (∃ o ∈ Operation.catalogue, symbol = "indexstore_" ++ o.name
              ∧ (o.optional = true → l.closures = true))
              ↔ (o.optional = true → l.closures = true) := by
            constructor
            · rintro ⟨o', ho', rfl, hclosures⟩
              rw [← o'.symbol_eq, operation?_symbol ho', Option.some.injEq] at hoperation
              exact hoperation ▸ hclosures
            · exact fun hclosures => ⟨o, ho, hsymbol.symm, hclosures⟩
          rw [hone]
          cases hoptional : o.optional <;> cases l.closures <;> simp [hoptional]

/-- What has been reported after a look-up of a library whose version is encoded by a number. -/
def report (raw : UInt32) (symbol : String) (r : Reported) : Reported :=
  if l.hidden.contains symbol || !reports symbol then r else ⟨raw, l.formatVersion⟩

theorem lookup_encoded {raw : UInt32} (h : l.version.encode = .ok raw) (symbol : String)
    (r : Reported) :
  l.lookup symbol r = .ok (l.exported? symbol, l.report raw symbol r)
  := by
  rw [lookup, report, h]
  split <;> rfl

/-- What a library has left in the process stays as it is under further look-ups. -/
theorem report_own (raw : UInt32) (symbol : String) :
  l.report raw symbol ⟨raw, l.formatVersion⟩ = ⟨raw, l.formatVersion⟩
  := by
  rw [report, ite_self]

theorem afterLooking_own (raw : UInt32) (os : List Operation) :
  afterLooking (l.report raw) os ⟨raw, l.formatVersion⟩ = ⟨raw, l.formatVersion⟩
  := by
  induction os with
  | nil => rfl
  | cons o os ih =>
      rw [afterLooking, List.foldl_cons, report_own]
      apply ih

/-- Looking up an operation that reports a version, and that is not hidden, leaves the versions of
the library in the process. -/
theorem afterLooking_reporting (raw : UInt32) {os : List Operation} {o : Operation} (ho : o ∈ os)
    (hreports : reports o.symbol = true) (hshown : l.hidden.contains o.symbol = false)
    (r : Reported) :
  afterLooking (l.report raw) os r = ⟨raw, l.formatVersion⟩
  := by
  induction os generalizing r with
  | nil => cases ho
  | cons o' os ih =>
      rw [afterLooking, List.foldl_cons]
      rcases List.mem_cons.mp ho with rfl | ho
      · rw [report, hreports, hshown]
        apply afterLooking_own
      · apply ih ho

/-- One of the operations that every library offers reports a version. -/
theorem exists_reporting :
  ∃ o ∈ Operation.requiredOnes, reports o.symbol = true
  := by
  refine ⟨.plain "version" [] .unsigned, ?_, ?_⟩
  · simp [Operation.requiredOnes, Operation.catalogue, Operation.plain, Operation.closureForm]
  · simp [reports, Operation.symbol, Operation.plain]

theorem not_hidden_of_exported {symbol : String} (h : (l.exported? symbol).isSome) :
  l.hidden.contains symbol = false
  := by
  cases hhidden : l.hidden.contains symbol with
  | false => rfl
  | true => simp only [exported?, hhidden, if_true, Option.isSome_none, Bool.false_eq_true] at h

/-- If no required symbol is missing, the process reports the versions of the library. -/
theorem afterLoading_report (raw : UInt32) (before : Reported)
    (hall : Operation.requiredOnes.find? (fun o => (l.exported? o.symbol).isNone) = none) :
  afterLoading (l.report raw) before = ⟨raw, l.formatVersion⟩
  := by
  obtain ⟨o, ho, hreports⟩ := exists_reporting
  have hexported : (l.exported? o.symbol).isSome := by
    have hfound := List.find?_eq_none.mp hall o ho
    simpa [Option.isSome_iff_ne_none] using hfound
  rw [afterLoading, l.afterLooking_reporting raw ho hreports (l.not_hidden_of_exported hexported),
    afterLooking_own, report_own]

/-- The operations that report a version are those of two names. -/
theorem reports_symbol (name : String) :
  reports ("indexstore_" ++ name) = (name == "version" || name == "format_version")
  := by
  have hname (reporting : String) :
      ("indexstore_" ++ name == exportedSymbol reporting) = (name == reporting) := by
    rw [Bool.eq_iff_iff, beq_iff_eq, beq_iff_eq, exportedSymbol, String.append_right_inj]
  rw [reports, hname, hname]

/-- An operation that reports a version is exported unless it is hidden. -/
theorem exported?_of_reports {symbol : String} (h : reports symbol = true) :
  l.exported? symbol = if l.hidden.contains symbol then none else some symbol
  := by
  rw [reports, Bool.or_eq_true, beq_iff_eq, beq_iff_eq] at h
  rcases h with rfl | rfl
  · have hoperation : operation? (exportedSymbol "version")
        = some (.plain "version" [] .unsigned) := rfl
    have hclass : exportedSymbol "version" ≠ closureClassSymbol := by
      simp [exportedSymbol, closureClassSymbol]
    simp only [exported?, hoperation, if_neg hclass, Operation.plain]
    rfl
  · have hoperation : operation? (exportedSymbol "format_version")
        = some (.plain "format_version" [] .unsigned) := rfl
    have hclass : exportedSymbol "format_version" ≠ closureClassSymbol := by
      simp [exportedSymbol, closureClassSymbol]
    simp only [exported?, hoperation, if_neg hclass, Operation.plain]
    rfl

/-- If the version cannot be encoded, required operations are looked up until one is missing or
would report the version. -/
theorem required_overflow {e : Version.Overflow} (h : l.version.encode = .error e)
    (before r : Reported) (os : List Operation) :
  (l.source before).required os r
    = match os.find? fun o => (l.exported? o.symbol).isNone || reports o.symbol with
      | some o =>
        if (l.exported? o.symbol).isNone then
          .error (.error (.load (.missingSymbol o.symbol)))
        else .error (.panic e.message)
      | none => .ok (found l.exported? os, r)
  := by
  induction os with
  | nil => rfl
  | cons o os ih =>
      simp only [required, look, source, lookup, h, List.find?_cons] at ih ⊢
      cases hreports : reports o.symbol with
      | false =>
          cases hexported : l.exported? o.symbol with
          | none => simp [Except.mapError, bind, Except.bind, hexported]
          | some a =>
              simp only [Bool.not_false, Bool.or_true, if_true, Except.mapError, bind, Except.bind,
                Option.isNone_some, Bool.or_self, ih]
              cases os.find? fun o => (l.exported? o.symbol).isNone || reports o.symbol with
              | none => simp [found, hexported, pure, Except.pure]
              | some o' => cases hmissing : (l.exported? o'.symbol).isNone <;> simp [hmissing]
      | true =>
          have hexported := l.exported?_of_reports hreports
          cases hhidden : l.hidden.contains o.symbol with
          | true =>
              rw [hhidden, if_pos rfl] at hexported
              simp [hexported, Except.mapError, bind, Except.bind]
          | false =>
              rw [hhidden, if_neg Bool.false_ne_true] at hexported
              simp [hexported, Except.mapError, bind, Except.bind]

/-- If the version cannot be encoded, loading ends at the first required operation that is missing
or would report the version. There is one. -/
theorem load_overflow {e : Version.Overflow} (h : l.version.encode = .error e) (before : Reported)
    (config : LibraryConfig) :
  ∃ o, Operation.requiredOnes.find? (fun o => (l.exported? o.symbol).isNone || reports o.symbol)
      = some o
    ∧ (l.source before).load config
      = if (l.exported? o.symbol).isNone then
          .error (.error (.load (.missingSymbol o.symbol)))
        else .error (.panic e.message)
  := by
  have hfind : (Operation.requiredOnes.find? fun o =>
      (l.exported? o.symbol).isNone || reports o.symbol).isSome := by
    obtain ⟨o, ho, hreports⟩ := exists_reporting
    rw [List.find?_isSome]
    use o, ho
    rw [hreports, Bool.or_true]
  obtain ⟨o, ho⟩ := Option.isSome_iff_exists.mp hfind
  use o, ho
  have hrequired : (l.source before).required Operation.requiredOnes (l.source before).memory
      = _ := l.required_overflow h before before Operation.requiredOnes
  rw [ho] at hrequired
  rw [load, hrequired]
  cases hmissing : (l.exported? o.symbol).isNone <;> simp [hmissing, bind, Except.bind]

end InProcessLibrary

/-- How loading ends is determined. For a map of symbols it ends as the map, the two numbers and
the configuration say. A library of the process exports, each as itself, those symbols of its
operations that are not hidden, and the symbol of the class of closures, as far as it is built for
closures. It ends in the same way, by what the library exports and by its own versions, whatever
has been reported in the process before; and if the version cannot be encoded, it ends at the first
required operation that is missing or that would report the version, which then panics. -/
theorem SymbolSource.load_determined (config : LibraryConfig) :
  (∀ (path : String) (map : String → Option α) (raw format : UInt32),
      LoadingEnds path map raw format config ((ofMap path map raw format).load config))
    ∧ ∀ (l : InProcessLibrary) (before : Reported),
        (∀ symbol address, l.exported? symbol = some address
          ↔ symbol = address ∧ symbol ∉ l.hidden
            ∧ (symbol = "_NSConcreteStackBlock" ∧ l.closures = true
              ∨ ∃ o ∈ Operation.catalogue, symbol = "indexstore_" ++ o.name
                ∧ (o.optional = true → l.closures = true)))
        ∧ match l.version.encode with
          | .ok raw => LoadingEnds "<fake libIndexStore>" l.exported? raw l.formatVersion config
              ((l.source before).load config)
          | .error e => ∃ o,
              Operation.requiredOnes.find? (fun o =>
                  (l.exported? ("indexstore_" ++ o.name)).isNone
                    || (o.name == "version" || o.name == "format_version"))
                = some o
              ∧ (l.source before).load config
                = if (l.exported? ("indexstore_" ++ o.name)).isNone then
                    .error (.error (.load (.missingSymbol ("indexstore_" ++ o.name))))
                  else .error (.panic e.message)
  := by
  constructor
  · intro path map raw format
    have hserves : ∀ symbol m,
        (ofMap path map raw format).lookup symbol m = .ok (map symbol, m) := by
      intro symbol m
      rfl
    apply load_ends hserves
    intro _
    exact ⟨rfl, rfl⟩
  · intro l before
    refine ⟨fun symbol address => l.exported?_eq_some, ?_⟩
    cases hencode : l.version.encode with
    | ok raw =>
        have hserves : ∀ symbol m, (l.source before).lookup symbol m
            = .ok (l.exported? symbol, l.report raw symbol m) := by
          apply l.lookup_encoded hencode
        apply load_ends hserves
        intro hall
        have hreport := l.afterLoading_report raw before hall
        simp only [InProcessLibrary.source, hreport, and_self]
    | error e =>
        obtain ⟨o, ho, hended⟩ := l.load_overflow hencode before config
        simp only [Operation.symbol_eq, InProcessLibrary.reports_symbol] at ho
        exact ⟨o, ho, hended⟩

end SymbolIndex
