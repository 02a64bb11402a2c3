import Mathlib.Logic.Relation
import SymbolIndex.Proofs.Run.Scene
import SymbolIndex.Proofs.Run.Within

/-!
# Points of a program

A program comes by many points: before and after each operation, and also in the midst of a
traversal, before and after each operation by which an item is visited. A relation that leads from
the beginning of each operation to its end leads from the beginning of a program to each of its
points. So a program goes to its points in single moves, each of which is an operation or the
beginning of a traversal.
-/

namespace SymbolIndex

variable {α β S : Type}

/-! ### Calls in the midst of a play -/

/-- The library calls back with an item in a state. -/
inductive Play.Calls (callback : Callback α S Bool) : Play α → S → α → S → Prop where
  | now (a : α) (next : Bool → Play α) (s : S) : Calls callback (.deliver a next) s a s
  | later {a b : α} {next : Bool → Play α} {s s' : S}
      (h : Calls callback (next (callback.call a s).1) (callback.call a s).2 b s') :
      Calls callback (.deliver a next) s b s'

/-- The library calls the filter, or else the receiver, with an item in a state. -/
inductive SearchPlay.Calls (filter : Callback α S Verdict) (receiver : Callback α S Unit) :
    SearchPlay α → S → Bool → α → S → Prop where
  | ask (a : α) (next : Verdict → SearchPlay α) (s : S) :
      Calls filter receiver (.ask a next) s true a s
  | give (a : α) (next : SearchPlay α) (s : S) :
      Calls filter receiver (.give a next) s false a s
  | afterAsk {a b : α} {next : Verdict → SearchPlay α} {s s' : S} {asked : Bool}
      (h : Calls filter receiver (next (filter.call a s).1) (filter.call a s).2 asked b s') :
      Calls filter receiver (.ask a next) s asked b s'
  | afterGive {a b : α} {next : SearchPlay α} {s s' : S} {asked : Bool}
      (h : Calls filter receiver next (receiver.call a s).2 asked b s') :
      Calls filter receiver (.give a next) s asked b s'

theorem Play.calls_within {R : S → S → Prop} [IsPreorder S R] {callback : Callback α S Bool}
    (hcall : ∀ a s, R s (callback.call a s).2) {play : Play α} {s s' : S} {a : α}
    (h : play.Calls callback s a s') :
  R s s'
  := by
  induction h with
  | now a next s => apply refl_of R
  | later h ih => exact trans_of R (hcall _ _) ih

theorem SearchPlay.calls_within {R : S → S → Prop} [IsPreorder S R]
    {filter : Callback α S Verdict} {receiver : Callback α S Unit}
    (hfilter : ∀ a s, R s (filter.call a s).2) (hreceiver : ∀ a s, R s (receiver.call a s).2)
    {play : SearchPlay α} {s s' : S} {asked : Bool} {a : α}
    (h : play.Calls filter receiver s asked a s') :
  R s s'
  := by
  induction h with
  | ask a next s => apply refl_of R
  | give a next s => apply refl_of R
  | afterAsk h ih => exact trans_of R (hfilter _ _) ih
  | afterGive h ih => exact trans_of R (hreceiver _ _) ih

/-! ### Visits -/

/-- The applier of a traversal is called with an item in a scene. It is not called any more when
it has asked to stop or has panicked. -/
def Reading.Hands (t : Reading α) (f : Applier Scene α) (s : Scene) (item : α) (s' : Scene) :
    Prop :=
  ∃ listing progress, t.listing? s.1 = some (.ok listing)
    ∧ progress.stopped = false
    ∧ (listing.start listing.convention s.2).1.Calls
        (listing.convention.callback (Progress.dispatch f))
        ({}, t.begun s.1, (listing.start listing.convention s.2).2) item (progress, s')

/-- The filter of a search, or its receiver, is called with a symbol in a scene. -/
def Reading.SearchHands (record : RecordRef) (f : Searcher Scene SymbolView) (s : Scene)
    (asked : Bool) (v : SymbolView) (s' : Scene) : Prop :=
  ∃ r progress, s.1.record? record = some r
    ∧ (if asked then progress.stopped = false
        else progress.panic = none ∧ progress.outstanding ≠ 0)
    ∧ (r.library.backend.search r.library.convention r.ref s.2).1.Calls
        (r.library.convention.callback (SearchProgress.ask f))
        (r.library.convention.callback (SearchProgress.give f))
        ({}, s.1.note ⟨r.store.directory, false⟩,
          (r.library.backend.search r.library.convention r.ref s.2).2)
        asked v (progress, s')

/-- What is done when a traversal or a search begins, or is refused, is within a relation. -/
structure Reading.Begins (R : Scene → Scene → Prop) : Prop where
  refused : ∀ {α : Type} (t : Reading α) {s : Scene} {e : Error},
    t.listing? s.1 = some (.error e) → R s (t.begun s.1, s.2)
  begun : ∀ {α : Type} (t : Reading α) {s : Scene} {listing : Listing Archive α},
    t.listing? s.1 = some (.ok listing) →
      R s (t.begun s.1, (listing.start listing.convention s.2).2)
  searched : ∀ {record : RecordRef} {s : Scene} {r : RecordReader Archive},
    s.1.record? record = some r →
      R s (s.1.note ⟨r.store.directory, false⟩,
        (r.library.backend.search r.library.convention r.ref s.2).2)

namespace Reading.Begins

variable {R : Scene → Scene → Prop} [IsPreorder Scene R] (hR : Begins R)

include hR

theorem apply_within (t : Reading α) {f : Applier Scene α} (hf : ∀ item s, R s (f item s).2)
    (s : Scene) :
  R s (t.apply f s).2
  := by
  rw [apply]
  split
  case h_1 => apply refl_of R
  case h_2 e h => exact hR.refused t h
  case h_3 listing h => exact trans_of R (hR.begun t h) (drive_within _ _ _ hf _)

/-- The way from the beginning of a traversal to a visit. -/
theorem hands_within {t : Reading α} {f : Applier Scene α} {item : α} {s s' : Scene}
    (hf : ∀ item s, R s (f item s).2) (h : t.Hands f s item s') :
  R s s'
  := by
  obtain ⟨listing, progress, hlisting, -, hcalls⟩ := h
  have hvisit : Beside Progress R _ (progress, s') :=
    Play.calls_within (Progress.dispatch_within hf listing.convention) hcalls
  exact trans_of R (hR.begun t hlisting) hvisit

theorem search_within (record : RecordRef) {f : Searcher Scene SymbolView}
    (hfilter : ∀ v s, R s (f.filter v s).2) (hreceive : ∀ v s, R s (f.receive v s).2)
    (s : Scene) :
  R s (search record f s).2
  := by
  rw [search]
  cases hr : s.1.record? record with
  | none => apply refl_of R
  | some r =>
      exact trans_of R (hR.searched hr) (driveSearch_within _ _ _ hfilter hreceive _)

/-- The way from the beginning of a search to a call. -/
theorem searchHands_within {record : RecordRef} {f : Searcher Scene SymbolView} {asked : Bool}
    {v : SymbolView} {s s' : Scene} (hfilter : ∀ v s, R s (f.filter v s).2)
    (hreceive : ∀ v s, R s (f.receive v s).2) (h : SearchHands record f s asked v s') :
  R s s'
  := by
  obtain ⟨r, progress, hr, -, hcalls⟩ := h
  have hvisit : Beside SearchProgress R _ (progress, s') :=
    SearchPlay.calls_within (SearchProgress.ask_within hfilter r.library.convention)
      (SearchProgress.give_within hreceive r.library.convention) hcalls
  exact trans_of R (hR.searched hr) hvisit

end Reading.Begins

/-! ### Points -/

/-- Everything that the program does satisfies a predicate. Traversals and searches are always
allowed. -/
def Program.Only (P : Deed → Prop) : {β : Type} → Program β → Prop
  | _, .answer _ => True
  | _, .look next => ∀ s, (next s).Only P
  | _, .perform deed next => P deed ∧ ∀ result, (next result).Only P
  | _, .handOut _ visit next =>
    (∀ item, (visit item).Only P) ∧ ∀ result, (next result).Only P
  | _, .search _ filter receive next =>
    (∀ v, (filter v).Only P) ∧ (∀ v, (receive v).Only P) ∧ ∀ result, (next result).Only P

/-- A scene by which a program comes. -/
inductive Program.Reaches : {β : Type} → Program β → Scene → Scene → Prop where
  | here {β : Type} (p : Program β) (s : Scene) : Reaches p s s
  | look {β : Type} {next : Scene → Program β} {s x : Scene} (h : Reaches (next s) s x) :
      Reaches (.look next) s x
  | perform {β : Type} {deed : Deed} {next : Except Halt Unit → Program β} {s x : Scene}
      (h : Reaches (next (deed.run s).1) (deed.run s).2 x) : Reaches (.perform deed next) s x
  /-- In the midst of a traversal. -/
  | visit {α β : Type} {t : Reading α} {visit : α → Program Reply}
      {next : Except Halt Outcome → Program β} {item : α} {s s' x : Scene}
      (hands : t.Hands (fun item => (visit item).run) s item s')
      (h : Reaches (visit item) s' x) : Reaches (.handOut t visit next) s x
  | handOut {α β : Type} {t : Reading α} {visit : α → Program Reply}
      {next : Except Halt Outcome → Program β} {s x : Scene}
      (h : Reaches (next (t.apply (fun item => (visit item).run) s).1)
        (t.apply (fun item => (visit item).run) s).2 x) : Reaches (.handOut t visit next) s x
  /-- In the midst of a search. -/
  | filter {β : Type} {record : RecordRef} {filter : SymbolView → Program FilterReply}
      {receive : SymbolView → Program (Option String)} {next : Except Halt Outcome → Program β}
      {v : SymbolView} {s s' x : Scene}
      (hands : Reading.SearchHands record
        ⟨fun v => (filter v).run, fun v => (receive v).run⟩ s true v s')
      (h : Reaches (filter v) s' x) : Reaches (.search record filter receive next) s x
  | receive {β : Type} {record : RecordRef} {filter : SymbolView → Program FilterReply}
      {receive : SymbolView → Program (Option String)} {next : Except Halt Outcome → Program β}
      {v : SymbolView} {s s' x : Scene}
      (hands : Reading.SearchHands record
        ⟨fun v => (filter v).run, fun v => (receive v).run⟩ s false v s')
      (h : Reaches (receive v) s' x) : Reaches (.search record filter receive next) s x
  | search {β : Type} {record : RecordRef} {filter : SymbolView → Program FilterReply}
      {receive : SymbolView → Program (Option String)} {next : Except Halt Outcome → Program β}
      {s x : Scene}
      (h : Reaches
        (next (Reading.search record ⟨fun v => (filter v).run, fun v => (receive v).run⟩ s).1)
        (Reading.search record ⟨fun v => (filter v).run, fun v => (receive v).run⟩ s).2 x) :
      Reaches (.search record filter receive next) s x

/-- A program comes by the scene in which it ends. -/
theorem Program.reaches_end (p : Program β) (s : Scene) :
  p.Reaches s (p.run s).2
  := by
  induction p generalizing s with
  | answer b => apply Reaches.here
  | look next ih => exact .look (ih s s)
  | perform deed next ih => exact .perform (ih _ _)
  | handOut t visit next ihVisit ihNext => exact .handOut (ihNext _ _)
  | search record filter receive next ihFilter ihReceive ihNext => exact .search (ihNext _ _)

namespace Program

variable {R : Scene → Scene → Prop} [IsPreorder Scene R] {P : Deed → Prop}

/-- A program stays within a relation if everything that it does does so. -/
theorem run_within (hR : Reading.Begins R) (hdeed : ∀ deed, P deed → ∀ s, R s (deed.run s).2)
    {p : Program β} (h : p.Only P) (s : Scene) :
  R s (p.run s).2
  := by
  induction p generalizing s with
  | answer b => apply refl_of R
  | look next ih => exact ih s (h s) s
  | perform deed next ih => exact trans_of R (hdeed deed h.1 s) (ih _ (h.2 _) _)
  | handOut t visit next ihVisit ihNext =>
      have hvisit := hR.apply_within t (fun item => ihVisit item (h.1 item)) s
      exact trans_of R hvisit (ihNext _ (h.2 _) _)
  | search record filter receive next ihFilter ihReceive ihNext =>
      have hsearch := hR.search_within record
        (f := ⟨fun v => (filter v).run, fun v => (receive v).run⟩)
        (fun v => ihFilter v (h.1 v)) (fun v => ihReceive v (h.2.1 v)) s
      exact trans_of R hsearch (ihNext _ (h.2.2 _) _)

/-- A program stays within the relation at each of its points. -/
theorem Reaches.within (hR : Reading.Begins R) (hdeed : ∀ deed, P deed → ∀ s, R s (deed.run s).2)
    {p : Program β} {s x : Scene} (hx : p.Reaches s x) (h : p.Only P) :
  R s x
  := by
  induction hx with
  | here p s => apply refl_of R
  | look hx ih => exact ih (h _)
  | perform hx ih => exact trans_of R (hdeed _ h.1 _) (ih (h.2 _))
  | visit hands hx ih =>
      have hvisit := hR.hands_within (fun item => run_within hR hdeed (h.1 item)) hands
      exact trans_of R hvisit (ih (h.1 _))
  | handOut hx ih =>
      exact trans_of R (hR.apply_within _ (fun item => run_within hR hdeed (h.1 item)) _)
        (ih (h.2 _))
  | filter hands hx ih =>
      have hcall := hR.searchHands_within (fun v => run_within hR hdeed (h.1 v))
        (fun v => run_within hR hdeed (h.2.1 v)) hands
      exact trans_of R hcall (ih (h.1 _))
  | receive hands hx ih =>
      have hcall := hR.searchHands_within (fun v => run_within hR hdeed (h.1 v))
        (fun v => run_within hR hdeed (h.2.1 v)) hands
      exact trans_of R hcall (ih (h.2.1 _))
  | search hx ih =>
      exact trans_of R
        (hR.search_within _ (fun v => run_within hR hdeed (h.1 v))
          (fun v => run_within hR hdeed (h.2.1 v)) _)
        (ih (h.2.2 _))

/-- Every program does what it may do when it may do anything. -/
theorem only_true (p : Program β) :
  p.Only fun _ => True
  := by
  induction p with
  | answer b => trivial
  | look next ih => exact ih
  | perform deed next ih => exact ⟨trivial, ih⟩
  | handOut t visit next ihVisit ihNext => exact ⟨ihVisit, ihNext⟩
  | search record filter receive next ihFilter ihReceive ihNext =>
      exact ⟨ihFilter, ihReceive, ihNext⟩

end Program

/-! ### Moves -/

/-- A single step of a client: an operation that is allowed in the scene, or the beginning of a
traversal or of a search, which always is. -/
inductive Scene.Move (allowed : Scene → Deed → Prop) : Scene → Scene → Prop where
  | deed {s : Scene} {deed : Deed} (h : allowed s deed) : Move allowed s (deed.run s).2
  | refused {α : Type} {t : Reading α} {s : Scene} {e : Error}
      (h : t.listing? s.1 = some (.error e)) : Move allowed s (t.begun s.1, s.2)
  | begun {α : Type} {t : Reading α} {s : Scene} {listing : Listing Archive α}
      (h : t.listing? s.1 = some (.ok listing)) :
      Move allowed s (t.begun s.1, (listing.start listing.convention s.2).2)
  | searched {record : RecordRef} {s : Scene} {r : RecordReader Archive}
      (h : s.1.record? record = some r) :
      Move allowed s (s.1.note ⟨r.store.directory, false⟩,
        (r.library.backend.search r.library.convention r.ref s.2).2)

/-- A client goes from one scene to another. -/
abbrev Scene.Goes (allowed : Scene → Deed → Prop) : Scene → Scene → Prop :=
  Relation.ReflTransGen (Move allowed)

theorem Scene.begins_goes (allowed : Scene → Deed → Prop) :
  Reading.Begins (Goes allowed)
  where
  refused _ _ _ h := .single (.refused h)
  begun _ _ _ h := .single (.begun h)
  searched h := .single (.searched h)

/-- A program goes to each of its points. -/
theorem Program.Reaches.goes {P : Deed → Prop} {p : Program β} {s x : Scene}
    (hx : p.Reaches s x) (h : p.Only P) :
  s.Goes (fun _ => P) x
  := hx.within (Scene.begins_goes _) (fun _ hdeed _ => .single (.deed hdeed)) h

end SymbolIndex
