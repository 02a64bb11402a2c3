import SymbolIndex.Proofs.Collection.Gathering
import SymbolIndex.Store.Record
import SymbolIndex.Store.Unit

/-!
# Collected lists are complete

A collection is one of the operations that answer with a list of copies. It runs one traversal,
and for each occurrence one more over its relations. Whatever the library does in any of them, the
list has one entry for each item that it has handed over, and each entry is complete itself, or
there is an error in place of the list.
-/

namespace SymbolIndex

open Text (Octets)

variable {σ α β : Type}

/-- The library hands over exactly the items of a list, is told to go on after each of them, and
returns that there are no more. -/
def Play.Lists (play : Play α) (items : List α) : Prop :=
  play.Runs (items.map fun a => (a, true)) true

namespace Library

/-- The copy of a relation says what the library shows of it and of the symbol that it gives. -/
def RelationCopied (l : Library σ) (v : RelationView) (info : RelationInfo) (s s' : σ) : Prop :=
  ∃ symbol, l.backend.relationSymbol v s = (some symbol, s')
    ∧ info = { roles := ⟨v.roles⟩, symbol := symbol.info }

/-- The copy of an occurrence says what the library shows of it and of the symbol that it gives,
and has a copy of each relation that the library hands over. -/
def OccurrenceCopied (l : Library σ) (v : OccurrenceView) (info : OccurrenceInfo) (s s' : σ) :
    Prop :=
  ∃ symbol s₁ relations,
    l.backend.occurrenceSymbol v s = (some symbol, s₁)
      ∧ (l.backend.relations l.convention v s₁).1.Lists relations
      ∧ Entries l.RelationCopied relations info.relations
          (l.backend.relations l.convention v s₁).2 s'
      ∧ info = {
          symbol := symbol.info
          roles := ⟨v.roles⟩
          line := v.line
          column := v.column
          relations := info.relations }

variable (l : Library σ)

/-! ### Copies of relations -/

theorem relationInfo_eq (v : RelationView) (s : σ) :
  l.relationInfo v s
    = match l.backend.relationSymbol v s with
      | (some symbol, s') => (.ok { roles := ⟨v.roles⟩, symbol := symbol.info }, s')
      | (none, s') => (.error (.error (.breach "symbol_relation_get_symbol" .noSymbol)), s')
  := by
  rcases h : l.backend.relationSymbol v s with ⟨_ | symbol, s'⟩
  all_goals
    simp only [relationInfo, relationSymbol, bind, Access.bind, Access.step, h, symbolOr]
    rfl

theorem relationInfo_calm (v : RelationView) :
  (l.relationInfo v).Calm
  := by
  intro s message
  rw [relationInfo_eq]
  rcases l.backend.relationSymbol v s with ⟨_ | symbol, s'⟩ <;> simp

theorem relationCopied_of_ok {v : RelationView} {info : RelationInfo} {s s' : σ}
    (h : l.relationInfo v s = (.ok info, s')) :
  l.RelationCopied v info s s'
  := by
  rw [relationInfo_eq] at h
  rcases hsymbol : l.backend.relationSymbol v s with ⟨_ | symbol, s₁⟩
  · simp [hsymbol] at h
  · simp only [hsymbol, Prod.mk.injEq, Except.ok.injEq] at h
    obtain ⟨rfl, rfl⟩ := h
    use symbol, hsymbol

/-! ### Copies of occurrences -/

/-- Copying an occurrence is copying its relations when the library has given its symbol. -/
theorem occurrenceInfo_eq (v : OccurrenceView) (s : σ) :
  l.occurrenceInfo v s
    = match l.backend.occurrenceSymbol v s with
      | (none, s₁) => (.error (.error (.breach "occurrence_get_symbol" .noSymbol)), s₁)
      | (some symbol, s₁) =>
        match l.relationInfos v s₁ with
        | (.error h, s₂) => (.error h, s₂)
        | (.ok relations, s₂) =>
          (.ok {
            symbol := symbol.info
            roles := ⟨v.roles⟩
            line := v.line
            column := v.column
            relations }, s₂)
  := by
  rcases h : l.backend.occurrenceSymbol v s with ⟨_ | symbol, s₁⟩
  · simp only [occurrenceInfo, occurrenceSymbol, bind, Access.bind, Access.step, h, symbolOr]
    rfl
  · simp only [occurrenceInfo, occurrenceSymbol, bind, Access.bind, Access.step, h, symbolOr,
      Access.pure]
    rcases l.relationInfos v s₁ with ⟨_ | relations, s₂⟩ <;> rfl

theorem relationInfos_calm (v : OccurrenceView) :
  (l.relationInfos v).Calm
  := by
  apply Listing.gather_calm
  apply relationInfo_calm

theorem occurrenceInfo_calm (v : OccurrenceView) :
  (l.occurrenceInfo v).Calm
  := by
  intro s message
  rw [occurrenceInfo_eq]
  rcases l.backend.occurrenceSymbol v s with ⟨_ | symbol, s₁⟩
  · simp
  · have hcalm := l.relationInfos_calm v s₁ message
    rcases hrelations : l.relationInfos v s₁ with ⟨h | relations, s₂⟩
    · simpa [hrelations] using hcalm
    · simp [hrelations]

/-- The relations that are copied are all that the library hands over. -/
theorem relationInfos_complete {v : OccurrenceView} {infos : List RelationInfo} {s s' : σ}
    (h : l.relationInfos v s = (.ok infos, s')) :
  ∃ relations, (l.backend.relations l.convention v s).1.Lists relations
    ∧ Entries l.RelationCopied relations infos (l.backend.relations l.convention v s).2 s'
  := by
  obtain ⟨items, entries, refused, complete, s₁, hruns, hentries, hresult⟩ :=
    (l.relations v).gather_settles l.relationInfo_calm s
  rw [relationInfos] at h
  cases refused with
  | nil =>
      cases complete with
      | true =>
          simp only [h, if_true, Prod.mk.injEq, Except.ok.injEq] at hresult
          obtain ⟨rfl, rfl⟩ := hresult
          rw [List.map_nil, List.append_nil] at hruns
          use items, hruns
          apply hentries.mono
          intro v info s s'
          apply relationCopied_of_ok
      | false => simp [h] at hresult
  | cons item late =>
      obtain ⟨e, s₂, -, hgather⟩ := hresult
      simp [h] at hgather

theorem occurrenceCopied_of_ok {v : OccurrenceView} {info : OccurrenceInfo} {s s' : σ}
    (h : l.occurrenceInfo v s = (.ok info, s')) :
  l.OccurrenceCopied v info s s'
  := by
  rw [occurrenceInfo_eq] at h
  rcases hsymbol : l.backend.occurrenceSymbol v s with ⟨_ | symbol, s₁⟩
  · simp [hsymbol] at h
  · rcases hinfos : l.relationInfos v s₁ with ⟨e | infos, s₂⟩
    · simp [hsymbol, hinfos] at h
    · simp only [hsymbol, hinfos, Prod.mk.injEq, Except.ok.injEq] at h
      obtain ⟨rfl, rfl⟩ := h
      obtain ⟨relations, hlists, hentries⟩ := l.relationInfos_complete hinfos
      use symbol, s₁, relations, hsymbol, hlists, hentries

end Library

/-! ### The seven collections -/

/-- An operation that answers with a list of copies, by the type of the items that the library
hands over and the type of the entries. -/
inductive Collection (σ : Type) : Type → Type → Type where
  | unitNames (store : Store σ) (sorted : Bool) : Collection σ (Option Octets) String
  | symbols (r : RecordReader σ) : Collection σ SymbolView SymbolInfo
  | cachedSymbols (r : RecordReader σ) : Collection σ SymbolView HeldSymbol
  | occurrences (r : RecordReader σ) : Collection σ OccurrenceView OccurrenceInfo
  | relations (l : Library σ) (v : OccurrenceView) : Collection σ RelationView RelationInfo
  | dependencies (r : UnitReader σ) : Collection σ DependencyView DependencyInfo
  | includes (r : UnitReader σ) : Collection σ IncludeView IncludeInfo

namespace Collection

/-- The answer of the operation. -/
def list : Collection σ α β → Access σ (List β)
  | unitNames store sorted => store.unitNames sorted
  | symbols r => r.symbolInfos
  | cachedSymbols r => r.cachedSymbols
  | occurrences r => r.occurrenceInfos
  | relations l v => l.relationInfos v
  | dependencies r => r.dependencyInfos
  | includes r => r.includeInfos

/-- The call of the library, by the convention in use. -/
def play : Collection σ α β → σ → Play α × σ
  | unitNames store sorted =>
    store.library.backend.units store.library.convention store.ref sorted
  | symbols r => r.library.backend.symbols r.library.convention r.ref true
  | cachedSymbols r => r.library.backend.symbols r.library.convention r.ref false
  | occurrences r => r.library.backend.occurrences r.library.convention r.ref .all
  | relations l v => l.backend.relations l.convention v
  | dependencies r => r.library.backend.dependencies r.library.convention r.ref
  | includes r => r.library.backend.includes r.library.convention r.ref

/-- The name of the library's operation. -/
def operation : Collection σ α β → String
  | unitNames .. => "store_units_apply"
  | symbols _ => "record_reader_symbols_apply"
  | cachedSymbols _ => "record_reader_symbols_apply"
  | occurrences _ => "record_reader_occurrences_apply"
  | relations .. => "occurrence_relations_apply"
  | dependencies _ => "unit_reader_dependencies_apply"
  | includes _ => "unit_reader_includes_apply"

/-- How one item is copied. -/
def copy : Collection σ α β → α → Access σ β
  | unitNames .. => fun name => .pure (Text.read name)
  | symbols _ => fun v => .pure v.info
  | cachedSymbols r => fun v => .pure ⟨r.library.identity, v⟩
  | occurrences r => r.library.occurrenceInfo
  | relations l _ => l.relationInfo
  | dependencies _ => fun v => .pure v.info
  | includes _ => fun v => .pure v.info

/-- What an entry says of its item. -/
def Copied : Collection σ α β → α → β → σ → σ → Prop
  | unitNames .. => fun name entry s s' => entry = Text.read name ∧ s' = s
  | symbols _ => fun v info s s' => info = v.info ∧ s' = s
  | cachedSymbols r => fun v held s s' => held = ⟨r.library.identity, v⟩ ∧ s' = s
  | occurrences r => r.library.OccurrenceCopied
  | relations l _ => l.RelationCopied
  | dependencies _ => fun v info s s' => info = v.info ∧ s' = s
  | includes _ => fun v info s s' => info = v.info ∧ s' = s

/-- The list is gathered from the call of the library. -/
theorem list_eq_gather (t : Collection σ α β) :
  ∃ c : Convention, t.list = Listing.gather ⟨t.operation, c, fun _ => t.play⟩ t.copy
  := by
  cases t with
  | unitNames store sorted =>
      use store.library.convention
      apply Listing.gather_map
  | symbols r => use r.library.convention; rfl
  | cachedSymbols r => use r.library.convention; rfl
  | occurrences r => use r.library.convention; rfl
  | relations l v => use l.convention; rfl
  | dependencies r => use r.library.convention; rfl
  | includes r => use r.library.convention; rfl

theorem pure_calm (b : β) :
  (Access.pure b : Access σ β).Calm
  := by
  intro s message
  simp [Access.pure]

theorem copy_calm (t : Collection σ α β) (a : α) :
  (t.copy a).Calm
  := by
  cases t with
  | unitNames store sorted => apply pure_calm
  | symbols r => apply pure_calm
  | cachedSymbols r => apply pure_calm
  | occurrences r => apply Library.occurrenceInfo_calm
  | relations l v => apply Library.relationInfo_calm
  | dependencies r => apply pure_calm
  | includes r => apply pure_calm

theorem copied_of_pure {b b' : β} {s s' : σ} (h : (Access.pure b : Access σ β) s = (.ok b', s')) :
  b' = b ∧ s' = s
  := by
  simp only [Access.pure, Prod.mk.injEq, Except.ok.injEq] at h
  exact ⟨h.1.symm, h.2.symm⟩

theorem copied_of_ok (t : Collection σ α β) {a : α} {b : β} {s s' : σ}
    (h : t.copy a s = (.ok b, s')) :
  t.Copied a b s s'
  := by
  cases t with
  | unitNames store sorted => apply copied_of_pure h
  | symbols r => apply copied_of_pure h
  | cachedSymbols r => apply copied_of_pure h
  | occurrences r => apply r.library.occurrenceCopied_of_ok h
  | relations l v => apply l.relationCopied_of_ok h
  | dependencies r => apply copied_of_pure h
  | includes r => apply copied_of_pure h

/-- Whatever the library does, a collection answers with a list only if the library has been told
to go on after each item and has returned that there are no more, and then the list has exactly
one complete entry for each item, in order. Otherwise the answer is an error. If an item cannot be
copied, it is the error of the first such item, unless the library does not obey the stop that it
is told: then it is a breach of the rules of the operation. -/
theorem list_complete_or_error (t : Collection σ α β) (s : σ) :
  ∃ (items : List α) (entries : List β) (refused : List α) (complete : Bool) (s₁ : σ),
    (t.play s).1.Runs (items.map (fun a => (a, true)) ++ refused.map (fun a => (a, false)))
        complete
      ∧ Entries t.Copied items entries (t.play s).2 s₁
      ∧ match refused with
        | [] =>
          if complete then (t.play s).1.Lists items ∧ t.list s = (.ok entries, s₁)
          else t.list s = (.error (.error (.traversalFailed t.operation)), s₁)
        | item :: late => ∃ e s₂,
          t.copy item s₁ = (.error (.error e), s₂)
            ∧ if late = [] ∧ complete = false then t.list s = (.error (.error e), s₂)
              else ∃ b, t.list s = (.error (.error (.breach t.operation b)), s₂)
  := by
  obtain ⟨c, hlist⟩ := t.list_eq_gather
  obtain ⟨items, entries, refused, complete, s₁, hruns, hentries, hresult⟩ :=
    Listing.gather_settles ⟨t.operation, c, fun _ => t.play⟩ t.copy_calm s
  rw [← hlist] at hresult
  have hcopied := hentries.mono fun _ _ _ _ => t.copied_of_ok
  refine ⟨items, entries, refused, complete, s₁, hruns, hcopied, ?_⟩
  cases refused with
  | nil =>
      rw [List.map_nil, List.append_nil] at hruns
      cases complete with
      | true => exact ⟨hruns, hresult⟩
      | false => exact hresult
  | cons item late =>
      obtain ⟨e, s₂, hcopy, hgather⟩ := hresult
      use e, s₂, hcopy
      rw [hgather]
      cases late <;> cases complete <;> simp [Listing.refusal]

end Collection

end SymbolIndex
