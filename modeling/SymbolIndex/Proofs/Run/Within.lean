import Mathlib.Order.Defs.Unbundled
import SymbolIndex.Search
import SymbolIndex.Store.Basic
import SymbolIndex.Store.NameBuffer

/-!
# Accesses within a relation

Some relations between states are reflexive and transitive. Such a relation holds between the
beginning and the end of a traversal, whatever the library does in it, if it holds between the
beginning and the end of each call of the applier. The same goes for searches, and for accesses
that are made of others.
-/

namespace SymbolIndex

open Text (Octets)

variable {σ ρ α β : Type} {R : σ → σ → Prop} [IsPreorder σ R]

/-! ### Plays -/

/-- The steps of a play are calls of the callback, one after the other. -/
theorem Play.run_within {callback : Callback α σ Bool}
    (hcall : ∀ a s, R s (callback.call a s).2) (play : Play α) (s : σ) :
  R s (play.run callback s).2
  := by
  induction play generalizing s with
  | finish complete => apply refl_of R
  | deliver a next ih => exact trans_of R (hcall a s) (ih _ _)

/-- The steps of a search are calls of the filter and of the receiver. -/
theorem SearchPlay.run_within {filter : Callback α σ Verdict} {receiver : Callback α σ Unit}
    (hfilter : ∀ a s, R s (filter.call a s).2) (hreceiver : ∀ a s, R s (receiver.call a s).2)
    (play : SearchPlay α) (s : σ) :
  R s (play.run filter receiver s).2
  := by
  induction play generalizing s with
  | finish complete => apply refl_of R
  | ask a next ih => exact trans_of R (hfilter a s) (ih _ _)
  | give a next ih => exact trans_of R (hreceiver a s) (ih _)

/-- The relation, beside what is known of a run. -/
def Beside (π : Type) (R : σ → σ → Prop) (x y : π × σ) : Prop := R x.2 y.2

instance (π : Type) : IsPreorder (π × σ) (Beside π R) where
  refl x := refl_of R x.2
  trans _ _ _ h h' := trans_of R h h'

/-- A call that comes after the stop does not reach the applier. -/
theorem Progress.dispatch_within {f : Applier σ α} (hf : ∀ a s, R s (f a s).2) (c : Convention)
    (a : α) (x : Progress × σ) :
  Beside Progress R x ((c.callback (dispatch f)).call a x).2
  := by
  obtain ⟨p, s⟩ := x
  have hreply := hf a s
  rw [Convention.call_callback, dispatch]
  rcases hs : f a s with ⟨reply, s'⟩
  rw [hs] at hreply
  cases p.stopped with
  | true => apply refl_of R
  | false => cases reply <;> exact hreply

/-- A question that comes after the stop does not reach the filter. -/
theorem SearchProgress.ask_within {f : Searcher σ α} (hf : ∀ a s, R s (f.filter a s).2)
    (c : Convention) (a : α) (x : SearchProgress × σ) :
  Beside SearchProgress R x ((c.callback (ask f)).call a x).2
  := by
  obtain ⟨p, s⟩ := x
  have hreply := hf a s
  rw [Convention.call_callback, ask]
  rcases hs : f.filter a s with ⟨reply, s'⟩
  rw [hs] at hreply
  cases p.stopped with
  | true => apply refl_of R
  | false => cases reply <;> exact hreply

/-- A symbol that is not due does not reach the receiver, nor does one after a panic. -/
theorem SearchProgress.give_within {f : Searcher σ α} (hf : ∀ a s, R s (f.receive a s).2)
    (c : Convention) (a : α) (x : SearchProgress × σ) :
  Beside SearchProgress R x ((c.callback (give f)).call a x).2
  := by
  obtain ⟨p, s⟩ := x
  have hreply := hf a s
  rw [Convention.call_callback, give]
  rcases hs : f.receive a s with ⟨panic, s'⟩
  rw [hs] at hreply
  split
  · apply refl_of R
  · split
    · apply refl_of R
    · cases panic <;> exact hreply

/-- A traversal is within the relation if each call of the applier is. -/
theorem drive_within (c : Convention) (operation : String) (play : Play α) {f : Applier σ α}
    (hf : ∀ a s, R s (f a s).2) (s : σ) :
  R s (drive c operation play f s).2
  := Play.run_within (Progress.dispatch_within hf c) play ({}, s)

/-- A search is within the relation if each call of its client is. -/
theorem driveSearch_within (c : Convention) (operation : String) (play : SearchPlay α)
    {f : Searcher σ α} (hfilter : ∀ a s, R s (f.filter a s).2)
    (hreceive : ∀ a s, R s (f.receive a s).2) (s : σ) :
  R s (driveSearch c operation play f s).2
  := SearchPlay.run_within (SearchProgress.ask_within hfilter c)
    (SearchProgress.give_within hreceive c) play ({}, s)

/-! ### Accesses -/

/-- The access relates the state in which it begins to the state in which it ends. -/
def Access.Within (R : σ → σ → Prop) (m : Access σ α) : Prop := ∀ s, R s (m s).2

namespace Access

/-- An access that changes nothing. -/
theorem Within.of_eq {m : Access σ α} (h : m.Within Eq) :
  m.Within R
  := by
  intro s
  rw [← h s]
  apply refl_of R

theorem within_pure (a : α) :
  (Access.pure a : Access σ α).Within R
  := refl_of R

omit [IsPreorder σ R] in
theorem within_change {f : σ → σ} (hf : ∀ s, R s (f s)) :
  (Access.change f).Within R
  := hf

theorem within_fail (e : Error) :
  (Access.fail e : Access σ α).Within R
  := refl_of R

/-- A text is ended or refused where the access begins. -/
theorem within_terminated (text : String) :
  (Access.terminated text : Access σ Octets).Within R
  := by
  rw [terminated]
  split
  · apply within_pure
  · apply within_fail

theorem within_terminatedPath (path : String) :
  (Access.terminatedPath path : Access σ Octets).Within R
  := by
  rw [terminatedPath]
  split
  · apply within_pure
  · apply within_fail

/-- One access after the other, as far as the first one comes. -/
theorem within_bind {m : Access σ α} {f : α → Access σ β} (hm : m.Within R)
    (hf : ∀ a, (f a).Within R) :
  (m >>= f).Within R
  := by
  intro s
  have hfirst := hm s
  simp only [Bind.bind, Access.bind]
  rcases hs : m s with ⟨h | a, s'⟩
  · rw [hs] at hfirst
    exact hfirst
  · rw [hs] at hfirst
    exact trans_of R hfirst (hf a s')

/-- Asking for a name is within the relation if each question is. -/
theorem within_askName {operation : String} {ask : Nat → σ → NameAnswer × σ}
    (hask : ∀ n s, R s (ask n s).2) (tries : Nat) (room : Octets) :
  (askName operation ask tries room).Within R
  := by
  induction tries generalizing room with
  | zero => apply within_fail
  | succ tries ih =>
      intro s
      simp only [askName]
      split
      · apply hask
      · split
        case h_1 => apply hask
        case h_2 => exact trans_of R (hask room.length s) (ih _ _)

theorem within_filterAuxM {keep : α → Access σ Bool} (hkeep : ∀ a, (keep a).Within R)
    (items kept : List α) :
  (items.filterAuxM keep kept).Within R
  := by
  induction items generalizing kept with
  | nil => apply within_pure
  | cons a items ih =>
      rw [List.filterAuxM]
      apply within_bind (hkeep a)
      intro b
      apply ih

/-- The items are looked at one after the other. -/
theorem within_filterM {keep : α → Access σ Bool} (hkeep : ∀ a, (keep a).Within R)
    (items : List α) :
  (items.filterM keep).Within R
  := by
  rw [List.filterM]
  apply within_bind
  · apply within_filterAuxM hkeep
  · intro kept
    apply within_pure

theorem within_mapM {f : α → Access σ β} (hf : ∀ a, (f a).Within R) (items : List α) :
  (items.mapM f).Within R
  := by
  have hloop : ∀ made : List β, (List.mapM.loop f items made).Within R := by
    induction items with
    | nil => exact fun made => within_pure made.reverse
    | cons a items ih =>
        intro made
        apply within_bind (hf a)
        intro b
        apply ih
  exact hloop []

end Access

/-! ### Listings -/

/-- A listing is gathered within the relation if it is started and each item is copied within it. -/
theorem Listing.gather_within {t : Listing σ α} {copy : α → Access σ β}
    (hstart : ∀ s, R s (t.start t.convention s).2) (hcopy : ∀ a, (copy a).Within R) :
  (t.gather copy).Within R
  := by
  intro s
  have hgatherer : ∀ a x, Beside (Gathered β) R x (gatherer copy a x).2 := by
    rintro a ⟨g, s⟩
    have hitem := hcopy a s
    simp only [gatherer]
    rcases hs : copy a s with ⟨(e | message) | b, s'⟩
    all_goals
      rw [hs] at hitem
      exact hitem
  have hdrive := drive_within (R := Beside (Gathered β) R) t.convention t.operation
    (t.start t.convention s).1 hgatherer ({}, (t.start t.convention s).2)
  have happly : R s (t.apply (gatherer copy) ({}, s)).2.2 := trans_of R (hstart s) hdrive
  simp only [gather]
  rcases hs : t.apply (gatherer copy) ({}, s) with ⟨h | outcome, ⟨copies, failure⟩, s'⟩
  all_goals
    rw [hs] at happly
    cases failure <;> exact happly

end SymbolIndex
