import SymbolIndex.Proofs.Contents.Copies
import SymbolIndex.Proofs.Contents.Records
import SymbolIndex.Proofs.Vocabulary

/-!
# What a copy says

A copy of a record or of a unit says what is in it: all of the texts, numbers and sets of flags, and
what the numbers of kinds mean, with everything in its order. The paths of a unit are mapped, and
nothing else is.
-/

namespace SymbolIndex

variable {α β : Type}

/-- What is made of each item of a list. -/
theorem forall₂_filterMap {R : α → β → Prop} {f : α → Option β} {items : List α}
    (h : ∀ a ∈ items, ∃ b, f a = some b ∧ R a b) :
  List.Forall₂ R items (items.filterMap f)
  := by
  induction items with
  | nil => exact .nil
  | cons a items ih =>
      obtain ⟨b, hb, hR⟩ := h a List.mem_cons_self
      rw [List.filterMap_cons_some hb]
      exact .cons hR (ih fun a ha => h a (List.mem_cons_of_mem _ ha))

theorem forall₂_map {R : α → β → Prop} {f : α → β} (h : ∀ a, R a (f a)) (items : List α) :
  List.Forall₂ R items (items.map f)
  := by
  rw [List.forall₂_map_right_iff, List.forall₂_same]
  exact fun a _ => h a

/-! ### Records -/

/-- The copy says of the symbol what its texts and sets are and what its numbers mean. -/
structure SymbolEntry.CopiedAs (s : SymbolEntry) (copy : SymbolInfo) : Prop where
  name : copy.name = s.name
  usr : copy.usr = s.usr
  codegenName : copy.codegenName = s.codegenName
  kind : Vocabulary.Reads s.kind .unknown copy.kind
  subKind : Vocabulary.Reads s.subKind .plain copy.subKind
  /-- An unknown language is left out. -/
  language : ∀ l, copy.language = some l ↔ Vocabulary.code l = s.language
  properties : copy.properties.bits = s.properties
  roles : copy.roles.bits = s.roles
  relatedRoles : copy.relatedRoles.bits = s.relatedRoles

theorem SymbolEntry.copiedAs_info (s : SymbolEntry) :
  s.CopiedAs s.info
  where
  name := rfl
  usr := rfl
  codegenName := rfl
  kind := Vocabulary.reads_getD _ _
  subKind := Vocabulary.reads_getD _ _
  language _ := Vocabulary.ofCode?_eq_some
  properties := rfl
  roles := rfl
  relatedRoles := rfl

namespace RecordEntry

variable (r : RecordEntry)

/-- The copy is that of the symbol at a place of the record. -/
def CopiesSymbol (i : UInt64) (copy : SymbolInfo) : Prop :=
  ∃ s, r.symbols[i.toNat]? = some s ∧ s.CopiedAs copy

/-- The copy is that of a relation of the record. -/
structure CopiesRelation (e : RelationEntry) (copy : RelationInfo) : Prop where
  symbol : r.CopiesSymbol e.symbol copy.symbol
  roles : copy.roles.bits = e.roles

/-- The copy is that of an occurrence of the record, with all of its relations. -/
structure CopiesOccurrence (o : OccurrenceEntry) (copy : OccurrenceInfo) : Prop where
  symbol : r.CopiesSymbol o.symbol copy.symbol
  roles : copy.roles.bits = o.roles
  line : copy.line = o.line
  column : copy.column = o.column
  relations : List.Forall₂ r.CopiesRelation o.relations copy.relations

variable {r}

theorem Holds.copiesSymbol {i : UInt64} (h : r.Holds i) :
  ∃ copy, r.symbolInfo? i = some copy ∧ r.CopiesSymbol i copy
  := by
  have hsymbol := List.getElem?_eq_getElem h
  refine ⟨r.symbols[i.toNat].info, ?_, _, hsymbol, SymbolEntry.copiedAs_info _⟩
  rw [symbolInfo?, hsymbol]
  rfl

theorem copies_relation {e : RelationEntry} (h : r.Holds e.symbol) :
  ∃ copy, r.relationInfo? e = some copy ∧ r.CopiesRelation e copy
  := by
  obtain ⟨symbol, hsymbol, hcopies⟩ := h.copiesSymbol
  rw [relationInfo?, hsymbol]
  exact ⟨_, rfl, hcopies, rfl⟩

theorem Whole.copies_occurrence (hwhole : r.Whole) {o : OccurrenceEntry} (ho : o ∈ r.occurrences) :
  ∃ copy, r.occurrenceInfo? o = some copy ∧ r.CopiesOccurrence o copy
  := by
  obtain ⟨hown, hrelations⟩ := hwhole.occurrence ho
  obtain ⟨symbol, hsymbol, hcopies⟩ := hown.copiesSymbol
  rw [occurrenceInfo?, hsymbol]
  refine ⟨_, rfl, hcopies, rfl, rfl, rfl, ?_⟩
  apply forall₂_filterMap
  intro e he
  exact copies_relation (hrelations e he)

theorem copies_symbols (r : RecordEntry) :
  List.Forall₂ SymbolEntry.CopiedAs r.symbols r.symbolInfos
  := forall₂_map SymbolEntry.copiedAs_info r.symbols

theorem Whole.copies_occurrences (hwhole : r.Whole) :
  List.Forall₂ r.CopiesOccurrence r.inSourceOrder r.occurrenceInfos
  := by
  apply forall₂_filterMap
  intro o ho
  apply hwhole.copies_occurrence
  exact r.perm_inSourceOrder.subset ho

end RecordEntry

/-! ### Paths -/

/-- The path has the given beginning. -/
def Begins (beginning path : String) : Prop := ∃ rest, path = beginning ++ rest

theorem withoutBeginning?_eq_some {beginning path rest : String} :
  withoutBeginning? beginning path = some rest ↔ path = beginning ++ rest
  := by
  rw [withoutBeginning?, ← String.toList_inj, String.toList_append]
  constructor
  · intro h
    split at h
    case isTrue hprefix =>
        obtain ⟨rest', hrest'⟩ := List.isPrefixOf_iff_prefix.mp hprefix
        obtain rfl := Option.some.inj h
        rw [← hrest', List.drop_left, String.toList_ofList]
    case isFalse => cases h
  · intro h
    rw [h, if_pos (List.isPrefixOf_iff_prefix.mpr (List.prefix_append _ _)), List.drop_left,
      String.ofList_toList]

theorem withoutBeginning?_eq_none {beginning path : String} :
  withoutBeginning? beginning path = none ↔ ¬ Begins beginning path
  := by
  rw [Option.eq_none_iff_forall_ne_some, Begins, not_exists]
  simp only [ne_eq, withoutBeginning?_eq_some]

/-- The first mapping whose beginning the path has is used, once. If there is none, the path stays
as it is. -/
def MapsTo (mappings : List (String × String)) (path mapped : String) : Prop :=
  (∃ before source target others rest, mappings = before ++ (source, target) :: others
      ∧ (∀ m ∈ before, ¬ Begins m.1 path) ∧ path = source ++ rest ∧ mapped = target ++ rest)
    ∨ (∀ m ∈ mappings, ¬ Begins m.1 path) ∧ mapped = path

theorem mapsTo_remap (mappings : List (String × String)) (path : String) :
  MapsTo mappings path (remap mappings path)
  := by
  induction mappings with
  | nil => exact .inr ⟨by simp, rfl⟩
  | cons m mappings ih =>
      rw [remap]
      cases hrest : withoutBeginning? m.1 path with
      | some rest =>
          have hpath := withoutBeginning?_eq_some.mp hrest
          exact .inl ⟨[], m.1, m.2, mappings, rest, rfl, by simp, hpath, rfl⟩
      | none =>
          have hother := withoutBeginning?_eq_none.mp hrest
          rcases ih with ⟨before, source, target, others, rest, rfl, hbefore, hpath⟩
            | ⟨hnone, hsame⟩
          · refine .inl ⟨m :: before, source, target, others, rest, rfl, ?_, hpath⟩
            exact List.forall_mem_cons.mpr ⟨hother, hbefore⟩
          · exact .inr ⟨List.forall_mem_cons.mpr ⟨hother, hnone⟩, hsame⟩

/-! ### Units -/

variable (mappings : List (String × String))

/-- The copy says of the dependency what it is. Its file path is mapped. -/
structure DependencyEntry.CopiedAs (d : DependencyEntry) (copy : DependencyInfo) : Prop where
  /-- An unknown kind is left out. -/
  kind : ∀ k, copy.kind = some k ↔ Vocabulary.code k = d.kind
  rawKind : copy.rawKind = d.kind
  isSystem : copy.isSystem = d.isSystem
  filePath : MapsTo mappings d.filePath copy.filePath
  moduleName : copy.moduleName = d.moduleName
  name : copy.name = d.name

/-- The copy says of the include what it is. Both paths are mapped. -/
structure IncludeEntry.CopiedAs (i : IncludeEntry) (copy : IncludeInfo) : Prop where
  sourcePath : MapsTo mappings i.sourcePath copy.sourcePath
  targetPath : MapsTo mappings i.targetPath copy.targetPath
  sourceLine : copy.sourceLine = i.sourceLine

/-- The copy says of the unit what it is, with all dependencies and includes. Its paths are mapped,
and nothing else is. -/
structure UnitEntry.CopiedAs (u : UnitEntry) (copy : UnitInfo) : Prop where
  name : copy.name = u.name
  providerIdentifier : copy.providerIdentifier = u.providerIdentifier
  providerVersion : copy.providerVersion = u.providerVersion
  modified : copy.modified = u.modified
  isSystem : copy.isSystem = u.isSystem
  isModule : copy.isModule = u.isModule
  isDebug : copy.isDebug = u.isDebug
  mainFile : Option.Rel (MapsTo mappings) u.mainFile copy.mainFile
  moduleName : copy.moduleName = u.moduleName
  workingDir : MapsTo mappings u.workingDir copy.workingDir
  outputFile : MapsTo mappings u.outputFile copy.outputFile
  sysrootPath : MapsTo mappings u.sysrootPath copy.sysrootPath
  target : copy.target = u.target
  dependencies : List.Forall₂ (DependencyEntry.CopiedAs mappings) u.dependencies copy.dependencies
  includes : List.Forall₂ (IncludeEntry.CopiedAs mappings) u.includes copy.includes

theorem DependencyEntry.copiedAs_info (d : DependencyEntry) :
  d.CopiedAs mappings (d.info (remap mappings))
  where
  kind _ := Vocabulary.ofCode?_eq_some
  rawKind := rfl
  isSystem := rfl
  filePath := mapsTo_remap mappings d.filePath
  moduleName := rfl
  name := rfl

theorem IncludeEntry.copiedAs_info (i : IncludeEntry) :
  i.CopiedAs mappings (i.info (remap mappings))
  where
  sourcePath := mapsTo_remap mappings i.sourcePath
  targetPath := mapsTo_remap mappings i.targetPath
  sourceLine := rfl

theorem UnitEntry.copiedAs_info (u : UnitEntry) :
  u.CopiedAs mappings (u.info (remap mappings))
  where
  name := rfl
  providerIdentifier := rfl
  providerVersion := rfl
  modified := rfl
  isSystem := rfl
  isModule := rfl
  isDebug := rfl
  mainFile := by
    rw [info]
    cases u.mainFile with
    | none => exact .none
    | some file => exact .some (mapsTo_remap mappings file)
  moduleName := rfl
  workingDir := mapsTo_remap mappings u.workingDir
  outputFile := mapsTo_remap mappings u.outputFile
  sysrootPath := mapsTo_remap mappings u.sysrootPath
  target := rfl
  dependencies := forall₂_map (DependencyEntry.copiedAs_info mappings) u.dependencies
  includes := forall₂_map (IncludeEntry.copiedAs_info mappings) u.includes

end SymbolIndex
