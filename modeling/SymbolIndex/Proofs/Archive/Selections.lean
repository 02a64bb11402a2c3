import SymbolIndex.Proofs.Archive.Deliveries
import SymbolIndex.Proofs.Contents.Records

/-!
# Occurrences of some symbols

A caller asks for the occurrences of some symbols that are related to some others. The symbols are
picked from what readers list, and they are known by the reader and by the place in its list, not by
how they look. If one of them is of another library, the caller is refused. Otherwise the
occurrences are handed out that are of one of the symbols and have a relation to one of the others,
where no symbols are no restriction.
-/

namespace SymbolIndex

variable {ρ σ α β : Type}

/-! ### The end of a traversal -/

/-- The name of an operation is in its errors only. -/
theorem settlement_operation {operation : String} {last : Option Reply} {late : Nat}
    {complete : Bool} (h : ∀ e, settlement operation last late complete ≠ .error (.error e))
    (other : String) :
  settlement operation last late complete = settlement other last late complete
  := by
  rcases last with _ | _ | _ | message
  · cases complete with
    | true => rfl
    | false => exact absurd rfl (h _)
  · cases complete with
    | true => rfl
    | false => exact absurd rfl (h _)
  · cases late with
    | succ late => exact absurd rfl (h _)
    | zero =>
        cases complete with
        | true => exact absurd rfl (h _)
        | false => rfl
  · rfl

theorem drive_each_operation (c : Convention) (operation other : String) (items : List α)
    (f : Applier ρ α) (r : ρ) :
  drive c operation (.each items) f r = drive c other (.each items) f r
  := by
  have herror := drive_each_ne_error c operation items f r
  rw [drive, Play.run_each] at herror ⊢
  rw [drive, Play.run_each]
  simp only [Progress.result_ofHistory] at herror ⊢
  rw [settlement_operation herror other]

/-! ### Parts of a list -/

/-- A part of what is shown of some items is what is shown of a part of them. -/
theorem map_some_filter_filterMap {f : α → Option β} {p : α → Bool} {q : β → Bool} {items : List α}
    (h : ∀ a ∈ items, ∃ b, f a = some b ∧ q b = p a) :
  ((items.filterMap f).filter q).map some = (items.filter p).map f
  := by
  induction items with
  | nil => rfl
  | cons a items ih =>
      obtain ⟨b, hb, hq⟩ := h a List.mem_cons_self
      have hitems := ih fun a ha => h a (List.mem_cons_of_mem _ ha)
      rw [List.filterMap_cons_some hb, List.filter_cons, List.filter_cons, hq]
      split
      · rw [List.map_cons, List.map_cons, hitems, hb]
      · exact hitems

theorem map_eq_of_forall₂ {R : α → β → Prop} {f : β → ρ} {g : α → ρ} {as : List α} {bs : List β}
    (h : List.Forall₂ R as bs) (hR : ∀ a b, R a b → f b = g a) :
  bs.map f = as.map g
  := by
  induction h with
  | nil => rfl
  | cons hab _ ih => rw [List.map_cons, List.map_cons, hR _ _ hab, ih]

/-! ### Symbols that are picked -/

/-- A place in the list of symbols of a reader. -/
structure Pick where
  reader : RecordReader Archive
  place : Nat

namespace Pick

/-- How a library tells the symbol apart. -/
def ref (p : Pick) : SymbolRef := ⟨p.reader.ref, p.place⟩

/-- The symbol has been taken from the place in the list of the reader, which is open since. -/
def Gives (s : Scene) (p : Pick) (v : HeldSymbol) : Prop :=
  ∃ (s₀ : Scene) (calls : List Call) (entry : RecordEntry) (symbols : List HeldSymbol),
    p.reader.OpenIn entry s₀
      ∧ (p.reader.cachedSymbols s₀.2).1 = .ok symbols
      ∧ symbols[p.place]? = some v
      ∧ .deed (.onRecord p.reader.ref .close) ∉ calls
      ∧ s = s₀.called calls

/-- The place is that of a symbol of the record that a reader shows. -/
def IsOf (r : RecordReader Archive) (i : UInt64) (p : Pick) : Prop :=
  p.reader.ref = r.ref ∧ p.place = i.toNat

instance (r : RecordReader Archive) (i : UInt64) (p : Pick) : Decidable (p.IsOf r i) :=
  inferInstanceAs (Decidable (_ ∧ _))

variable {s : Scene} {p : Pick} {v : HeldSymbol}

theorem Gives.openIn (h : p.Gives s v) :
  ∃ entry, p.reader.OpenIn entry s
  := by
  obtain ⟨s₀, calls, entry, symbols, hopen, -, -, hclose, rfl⟩ := h
  exact ⟨entry, hopen.called hclose⟩

/-- Every symbol of a record that is open can be taken. -/
theorem gives_of_openIn {entry : RecordEntry} (h : p.reader.OpenIn entry s) {symbol : SymbolEntry}
    (hsymbol : entry.symbols[p.place]? = some symbol) :
  p.Gives s ⟨p.reader.library.identity, symbol.view p.ref⟩
  := by
  refine ⟨s, [], entry, _, h, congrArg Prod.fst h.cachedSymbols, ?_, List.not_mem_nil, rfl⟩
  rw [List.getElem?_map, RecordEntry.symbolViews, List.getElem?_mapIdx, hsymbol]
  rfl

/-- A symbol is known by the reader and by the place. -/
theorem Gives.known (h : p.Gives s v) :
  v.library = p.reader.library.identity ∧ v.view.ref = p.ref
  := by
  obtain ⟨s₀, calls, entry, symbols, hopen, hsymbols, hv, -, -⟩ := h
  rw [hopen.cachedSymbols] at hsymbols
  obtain rfl := Except.ok.inj hsymbols
  simp only [RecordEntry.symbolViews, List.getElem?_map, List.getElem?_mapIdx,
    Option.map_map, Option.map_eq_some_iff] at hv
  obtain ⟨symbol, -, rfl⟩ := hv
  exact ⟨rfl, rfl⟩

variable {picks : List Pick} {symbols : List HeldSymbol}

theorem library_of_gives (h : List.Forall₂ (Gives s) picks symbols) :
  symbols.map HeldSymbol.library = picks.map fun p => p.reader.library.identity
  := map_eq_of_forall₂ h fun _ _ hv => hv.known.1

theorem ref_of_gives (h : List.Forall₂ (Gives s) picks symbols) :
  symbols.map (fun v => v.view.ref) = picks.map Pick.ref
  := map_eq_of_forall₂ h fun _ _ hv => hv.known.2

theorem openIn_of_gives (h : List.Forall₂ (Gives s) picks symbols) :
  ∀ p ∈ picks, ∃ entry, p.reader.OpenIn entry s
  := by
  induction h with
  | nil => simp
  | cons hv _ ih => exact List.forall_mem_cons.mpr ⟨hv.openIn, ih⟩

theorem ref_mem (r : RecordReader Archive) (i : UInt64) (picks : List Pick) :
  ⟨r.ref, i.toNat⟩ ∈ picks.map Pick.ref ↔ ∃ p ∈ picks, p.IsOf r i
  := by
  simp [ref, IsOf]

end Pick

/-! ### Occurrences that are asked for -/

namespace OccurrenceEntry

/-- The occurrence is of one of some symbols that have been picked of a reader, and has a relation
to one of some others. No symbols are no restriction. -/
def IsAsked (r : RecordReader Archive) (wanted related : List Pick) (o : OccurrenceEntry) : Prop :=
  (wanted = [] ∨ ∃ p ∈ wanted, p.IsOf r o.symbol)
    ∧ (related = [] ∨ ∃ e ∈ o.relations, ∃ p ∈ related, p.IsOf r e.symbol)

instance (r : RecordReader Archive) (wanted related : List Pick) (o : OccurrenceEntry) :
    Decidable (o.IsAsked r wanted related) :=
  inferInstanceAs (Decidable (_ ∧ _))

end OccurrenceEntry

namespace RecordEntry

variable {entry : RecordEntry}

theorem Holds.symbolView {i : UInt64} (h : entry.Holds i) (reader : RecordRef) :
  ∃ v, entry.symbolView? reader i = some v ∧ v.ref = ⟨reader, i.toNat⟩
  := by
  rw [symbolView?, List.getElem?_eq_getElem h]
  exact ⟨_, rfl, rfl⟩

theorem exists_relationView (reader : RecordRef) {relations : List RelationEntry}
    (h : ∀ e ∈ relations, entry.Holds e.symbol) (P : SymbolRef → Prop) :
  (∃ v ∈ relations.filterMap (entry.relationView? reader), P v.symbol.ref)
    ↔ ∃ e ∈ relations, P ⟨reader, e.symbol.toNat⟩
  := by
  constructor
  · rintro ⟨v, hv, hP⟩
    obtain ⟨e, he, hshown⟩ := List.mem_filterMap.mp hv
    obtain ⟨symbol, hsymbol, href⟩ := (h e he).symbolView reader
    rw [relationView?, hsymbol] at hshown
    obtain rfl := Option.some.inj hshown
    exact ⟨e, he, href ▸ hP⟩
  · rintro ⟨e, he, hP⟩
    obtain ⟨symbol, hsymbol, href⟩ := (h e he).symbolView reader
    refine ⟨{ symbol, roles := e.roles }, List.mem_filterMap.mpr ⟨e, he, ?_⟩, href ▸ hP⟩
    rw [relationView?, hsymbol]
    rfl

/-- An occurrence of a whole record is shown, and it is selected if it is asked for. -/
theorem Whole.selects (hwhole : entry.Whole) (r : RecordReader Archive) (wanted related : List Pick)
    {o : OccurrenceEntry} (ho : o ∈ entry.occurrences) :
  ∃ v, entry.occurrenceView? r.ref o = some v
    ∧ (Selection.ofSymbols (wanted.map Pick.ref) (related.map Pick.ref)).selects v
        = decide (o.IsAsked r wanted related)
  := by
  obtain ⟨hown, hrelations⟩ := hwhole.occurrence ho
  obtain ⟨symbol, hsymbol, href⟩ := hown.symbolView r.ref
  rw [occurrenceView?, hsymbol]
  refine ⟨_, rfl, ?_⟩
  have hrelated := exists_relationView r.ref hrelations (· ∈ related.map Pick.ref)
  simp only [Pick.ref_mem] at hrelated
  rw [Selection.selects, Bool.eq_iff_iff, decide_eq_true_eq]
  simp only [Bool.and_eq_true, Bool.or_eq_true, List.isEmpty_map, List.isEmpty_iff,
    List.contains_iff_mem, List.any_eq_true, href, Pick.ref_mem, hrelated,
    OccurrenceEntry.IsAsked]

/-- What is selected of a whole record are the occurrences that are asked for, in the order of the
source. -/
theorem Whole.selected_ofSymbols (hwhole : entry.Whole) (r : RecordReader Archive)
    (wanted related : List Pick) :
  (entry.selected r (.ofSymbols (wanted.map Pick.ref) (related.map Pick.ref))).map some
    = (entry.inSourceOrder.filter fun o => o.IsAsked r wanted related).map
        (entry.occurrenceView? r.ref)
  := by
  apply map_some_filter_filterMap
  intro o ho
  apply hwhole.selects
  exact entry.perm_inSourceOrder.subset ho

end RecordEntry

/-! ### Asking for occurrences -/

namespace RecordReader

/-- Runs an applier on the occurrences of some symbols, or refuses to. -/
def applyToSymbols (r : RecordReader σ) (wanted related : List HeldSymbol)
    (f : Applier (ρ × σ) OccurrenceView) : Access (ρ × σ) Outcome :=
  match r.occurrencesOfSymbols wanted related with
  | .ok listing => listing.apply f
  | .error e => .fail e

variable {r : RecordReader Archive} {entry : RecordEntry} {s : Scene} {wanted related : List Pick}
  {symbols others : List HeldSymbol}

/-- Some symbol is of another library than that of the reader. -/
def Foreign (r : RecordReader Archive) (picks : List Pick) : Prop :=
  ∃ p ∈ picks, ¬ p.reader.library.same r.library

section

variable (hwanted : List.Forall₂ (Pick.Gives s) wanted symbols)
  (hrelated : List.Forall₂ (Pick.Gives s) related others)

include hwanted hrelated

theorem any_foreign (r : RecordReader Archive) :
  ((symbols ++ others).any fun v => v.library != r.library.identity) = true
    ↔ r.Foreign (wanted ++ related)
  := by
  have hlibraries := Pick.library_of_gives (List.rel_append hwanted hrelated)
  have hany : ((symbols ++ others).any fun v => v.library != r.library.identity)
      = ((symbols ++ others).map HeldSymbol.library).any (· != r.library.identity) := by
    rw [List.any_map]
    rfl
  rw [hany, hlibraries, List.any_map, List.any_eq_true]
  simp only [Foreign, Library.same, Function.comp_apply, bne_iff_ne, ne_eq, beq_iff_eq]

theorem applyToSymbols_foreign (h : r.Foreign (wanted ++ related)) (l : Library Archive)
    (hl : l.identity = r.library.identity) (f : Applier (ρ × Archive) OccurrenceView) :
  (r.through l).applyToSymbols symbols others f = .fail (.badArgument .foreignSymbols)
  := by
  rw [applyToSymbols, occurrencesOfSymbols, library_through, hl,
    if_pos ((any_foreign hwanted hrelated r).mpr h)]

/-- Symbols of the library are handed to it. -/
theorem applyToSymbols_ours (h : ¬ r.Foreign (wanted ++ related)) (c : Convention)
    (f : Applier (ρ × Archive) OccurrenceView) :
  (r.calling c).applyToSymbols symbols others f
    = (Handout.occurrencesOfSymbols r (symbols.map HeldSymbol.view)
        (others.map HeldSymbol.view)).apply (r.library.withArchive c) f
  := by
  rw [← any_foreign hwanted hrelated r] at h
  have hlisting : (Handout.occurrencesOfSymbols r (symbols.map HeldSymbol.view)
      (others.map HeldSymbol.view)).listing (r.library.withArchive c)
        = .ok ((r.calling c).select (.ofSymbols ((symbols.map HeldSymbol.view).map SymbolView.ref)
            ((others.map HeldSymbol.view).map SymbolView.ref))) :=
    (r.calling c).occurrencesOfSymbols_own _ _
  rw [Handout.apply, hlisting, applyToSymbols, occurrencesOfSymbols, library_calling,
    Library.identity_withArchive, if_neg h, List.map_map, List.map_map]
  rfl

/-- The library hands out what is selected by the places from which the symbols have been taken. -/
theorem items_of_gives (h : r.OpenIn entry s) :
  (Handout.occurrencesOfSymbols r (symbols.map HeldSymbol.view)
      (others.map HeldSymbol.view)).items s.2
    = entry.selected r (.ofSymbols (wanted.map Pick.ref) (related.map Pick.ref))
  := by
  have hsymbols : (symbols.map HeldSymbol.view).map SymbolView.ref = wanted.map Pick.ref := by
    rw [List.map_map]
    exact Pick.ref_of_gives hwanted
  have hothers : (others.map HeldSymbol.view).map SymbolView.ref = related.map Pick.ref := by
    rw [List.map_map]
    exact Pick.ref_of_gives hrelated
  rw [Handout.items, h.hasRecord.2.occurrencesOf_eq, hsymbols, hothers]

end

/-- No symbols at all are no restriction. -/
theorem applyToSymbols_nil (r : RecordReader Archive) (c : Convention)
    (f : Applier (ρ × Archive) OccurrenceView) :
  (r.calling c).applyToSymbols [] [] f = (r.calling c).occurrences.apply f
  := by
  have hselects : (Selection.ofSymbols [] []).selects = Selection.all.selects := by
    funext o
    rfl
  funext y
  simp only [applyToSymbols, occurrencesOfSymbols, List.nil_append, List.any_nil,
    Bool.false_eq_true, ↓reduceIte, List.map_nil, occurrences, Listing.apply, select,
    library_calling, Library.withArchive, Archive.backend, Archive.occurrencesOf, hselects]
  apply drive_each_operation

/-- There is one reader to a reference at a time. -/
theorem OpenIn.eq_of_ref (h : r.OpenIn entry s) {r' : RecordReader Archive} {entry' : RecordEntry}
    (h' : r'.OpenIn entry' s) (href : r'.ref = r.ref) :
  r' = r
  := by
  have hheld := h'.hasRecord.2.held
  rw [href, h.hasRecord.2.held] at hheld
  exact (Option.some.inj hheld).symm

/-- The occurrences of some symbols that are related to some others. The symbols may have been taken
from any readers that are open, in any order and more than once. If one of them is of another
library, the caller is told so and the library, whatever it is, does nothing. That is the only
refusal. Otherwise a visitor that goes on is given, by either convention and in the order of the
source, the occurrences that are asked for. Only symbols that have been taken from this reader ask
for any, by their places in its record. If no symbols are given at all, all occurrences are handed
out. -/
theorem occurrencesOfSymbols_openIn (h : r.OpenIn entry s)
    (hwanted : List.Forall₂ (Pick.Gives s) wanted symbols)
    (hrelated : List.Forall₂ (Pick.Gives s) related others) :
  (∀ (ρ : Type) c (f : Applier (ρ × Archive) OccurrenceView) y,
      (∃ e, ((r.calling c).applyToSymbols symbols others f y).1
          = .error (.error (.badArgument e)))
        ↔ r.Foreign (wanted ++ related))
    ∧ (r.Foreign (wanted ++ related) → ∀ (l : Library Archive), l.identity = r.library.identity →
        ∀ (ρ : Type) (f : Applier (ρ × Archive) OccurrenceView) y,
          (r.through l).applyToSymbols symbols others f y
            = (.error (.error (.badArgument .foreignSymbols)), y))
    ∧ (¬ r.Foreign (wanted ++ related) → ∃ sorted views,
        OccurrenceEntry.Ordered entry.occurrences sorted
          ∧ views.map some = (sorted.filter fun o => o.IsAsked r wanted related).map
              (entry.occurrenceView? r.ref)
          ∧ ∀ (ρ : Type) (g : OccurrenceView → ρ × Archive → Bool × ρ × Archive),
              (∀ o y, (g o y).1 = true) → ∀ x c,
                let (result, (seen, _), _) := (r.calling c).applyToSymbols symbols others
                  (.calm (Applier.recorded g)) (([], x), s.2)
                result = .ok .completed ∧ seen = views)
    ∧ (∀ p ∈ wanted ++ related, p.reader.ref = r.ref → p.reader = r)
    ∧ ∀ (ρ : Type) c (f : Applier (ρ × Archive) OccurrenceView),
        (r.calling c).applyToSymbols [] [] f = (r.calling c).occurrences.apply f
  := by
  refine ⟨?_, ?_, ?_, ?_, fun ρ c f => r.applyToSymbols_nil c f⟩
  · intro ρ c f y
    constructor
    · rintro ⟨e, hrefused⟩
      by_contra hours
      rw [applyToSymbols_ours hwanted hrelated hours] at hrefused
      exact Handout.apply_ne_error _ _ _ _ _ _ hrefused
    · intro hforeign
      have hrefused := applyToSymbols_foreign hwanted hrelated hforeign (r.library.withArchive c)
        rfl f
      exact ⟨.foreignSymbols, congrArg Prod.fst (congrFun hrefused y)⟩
  · intro hforeign l hl ρ f y
    exact congrFun (applyToSymbols_foreign hwanted hrelated hforeign l hl f) y
  · intro hours
    let selection : Selection := .ofSymbols (wanted.map Pick.ref) (related.map Pick.ref)
    use entry.inSourceOrder, entry.selected r selection, entry.ordered_inSourceOrder,
      h.whole.selected_ofSymbols r wanted related
    intro ρ g hg x c
    have hitems := items_of_gives hwanted hrelated h
    have hdelivers := Handout.delivers r.library hitems ρ g hg x c
    rw [applyToSymbols_ours hwanted hrelated hours]
    exact hdelivers
  · intro p hp href
    obtain ⟨entry', hopen⟩ := Pick.openIn_of_gives (List.rel_append hwanted hrelated) p hp
    exact h.eq_of_ref hopen href

/-- A record that is open can be opened once more in the same store. -/
theorem exists_openIn_twice (hzero : '\x00' ∉ entry.name.toList)
    (hwhole : entry.missingSymbol? = none) :
  ∃ (r r' : RecordReader Archive) (s : Scene), r.OpenIn entry s ∧ r'.OpenIn entry s
    ∧ r'.ref ≠ r.ref ∧ r'.library = r.library
  := by
  let contents : StoreContents := { records := [entry] }
  have hentry : contents.openRecord entry.name = .ok entry := by
    simp [StoreContents.openRecord, StoreContents.record?, contents, hwhole]
  obtain ⟨store, s, hstore⟩ := Store.exists_openWith contents [] (by simp)
  have hstore' := hstore.after (.openRecord entry.name) (by simp)
  have h := hstore.opensRecord hzero hentry
  have h' := hstore'.opensRecord hzero hentry
  refine ⟨_, _, _, h.after store.ref (.openRecord entry.name), h', ?_, rfl⟩
  obtain ⟨hs, hhas⟩ := h.hasRecord
  exact Nat.ne_of_gt (hs.record_lt (Holdings.mem_of_record? hhas.held).1)

/-- Two symbols look alike, and two readers of the record are open. Of the three symbols that are
asked for two are the second one of the first reader, and one is the first one of the other
reader. -/
theorem occurrencesOfSymbols_openIn_alike :
  let symbol : SymbolEntry := { name := "s", usr := "u" }
  let entry : RecordEntry :=
    { name := "r", symbols := [symbol, symbol]
      occurrences := [{ symbol := 1, line := 2, relations := [{ symbol := 0 }] },
        { symbol := 0, line := 1, relations := [{ symbol := 0 }] }, { symbol := 1, line := 1 }] }
  ∃ (r r' : RecordReader Archive) (s : Scene) (symbols others : List HeldSymbol),
    r.OpenIn entry s ∧ r'.OpenIn entry s ∧ r'.ref ≠ r.ref
      ∧ List.Forall₂ (Pick.Gives s) [⟨r, 1⟩, ⟨r, 1⟩, ⟨r', 0⟩] symbols
      ∧ List.Forall₂ (Pick.Gives s) [⟨r', 1⟩, ⟨r, 0⟩] others
      ∧ ∃ sorted views, OccurrenceEntry.Ordered entry.occurrences sorted
        ∧ views.map some
          = (sorted.filter fun o => o.symbol = 1 ∧ ∃ e ∈ o.relations, e.symbol = 0).map
              (entry.occurrenceView? r.ref)
        ∧ ∀ (ρ : Type) (g : OccurrenceView → ρ × Archive → Bool × ρ × Archive),
            (∀ o y, (g o y).1 = true) → ∀ x,
              let (result, (seen, _), _) :=
                r.applyToSymbols symbols others (.calm (Applier.recorded g)) (([], x), s.2)
              result = .ok .completed ∧ seen = views
  := by
  intro symbol entry
  have hzero : '\x00' ∉ entry.name.toList := by decide
  obtain ⟨r, r', s, h, h', hne, hlibrary⟩ := exists_openIn_twice hzero rfl
  have hpick : ∀ (reader : RecordReader Archive) place, reader.OpenIn entry s →
      entry.symbols[place]? = some symbol → Pick.Gives s ⟨reader, place⟩
        ⟨reader.library.identity, symbol.view ⟨reader.ref, place⟩⟩ :=
    fun reader place hopen hsymbol => Pick.gives_of_openIn (p := ⟨reader, place⟩) hopen hsymbol
  have hwanted := List.Forall₂.cons (hpick r 1 h rfl)
    (.cons (hpick r 1 h rfl) (.cons (hpick r' 0 h' rfl) .nil))
  have hrelated := List.Forall₂.cons (hpick r' 1 h' rfl) (.cons (hpick r 0 h rfl) .nil)
  obtain ⟨-, -, hours, -, -⟩ := occurrencesOfSymbols_openIn h hwanted hrelated
  have hsame : ¬ r.Foreign ([⟨r, 1⟩, ⟨r, 1⟩, ⟨r', 0⟩] ++ [⟨r', 1⟩, ⟨r, 0⟩]) := by
    simp [Foreign, Library.same, hlibrary]
  obtain ⟨sorted, views, hordered, hviews, hdelivers⟩ := hours hsame
  have hasked : ∀ o : OccurrenceEntry, o.IsAsked r [⟨r, 1⟩, ⟨r, 1⟩, ⟨r', 0⟩] [⟨r', 1⟩, ⟨r, 0⟩]
      ↔ o.symbol = 1 ∧ ∃ e ∈ o.relations, e.symbol = 0 := by
    intro o
    have hplace : ∀ i j : UInt64, j.toNat = i.toNat ↔ i = j := fun i j =>
      UInt64.toNat_inj.trans eq_comm
    have hzeroth : ∀ i : UInt64, 0 = i.toNat ↔ i = 0 := fun i => hplace i 0
    have hfirst : ∀ i : UInt64, 1 = i.toNat ↔ i = 1 := fun i => hplace i 1
    simp [OccurrenceEntry.IsAsked, Pick.IsOf, hne, hzeroth, hfirst]
  simp only [hasked] at hviews
  refine ⟨r, r', s, _, _, h, h', hne, hwanted, hrelated, sorted, views, hordered, hviews, ?_⟩
  intro ρ g hg x
  have hown := hdelivers ρ g hg x r.library.convention
  rw [h.calling_own] at hown
  exact hown

end RecordReader

end SymbolIndex
