import SymbolIndex.Library.Listing
import SymbolIndex.Proofs.Traversal.Settlement

/-!
# Gathered lists

A gathered list has an entry for each item of a listing, or there is no list. The items that the
library hands over are copied one after the other up to the first one that cannot be copied, and
from that one on the library is told to stop. The list is there only if every item has been copied
and the library says that there are no more.
-/

namespace SymbolIndex

variable {ρ σ α β γ : Type}

/-- Entries made of items one after the other, each from the state that the one before it has left
behind. -/
inductive Entries (copied : α → β → σ → σ → Prop) : List α → List β → σ → σ → Prop where
  | nil (s : σ) : Entries copied [] [] s s
  | cons {a : α} {b : β} {items : List α} {entries : List β} {s s₁ s₂ : σ}
      (head : copied a b s s₁) (tail : Entries copied items entries s₁ s₂) :
      Entries copied (a :: items) (b :: entries) s s₂

theorem Entries.mono {copied copied' : α → β → σ → σ → Prop}
    (h : ∀ a b s s', copied a b s s' → copied' a b s s') {items : List α} {entries : List β}
    {s s' : σ} (he : Entries copied items entries s s') :
  Entries copied' items entries s s'
  := by
  induction he with
  | nil s => apply Entries.nil
  | cons head _ ih => apply Entries.cons (h _ _ _ _ head) ih

/-- A copy ends with a value or with an error, and with no panic. -/
def Access.Calm (m : Access σ α) : Prop := ∀ s message, (m s).1 ≠ .error (.panic message)

namespace Listing

/-- The error of a list when an item cannot be copied: the error of that item if the library obeys
the stop. -/
def refusal (operation : String) (e : Error) : Nat → Bool → Error
  | 0, false => e
  | 0, true => .breach operation .completedAfterStop
  | late + 1, _ => .breach operation (.appliedAfterStop (late + 1))

variable {copy : α → Access σ β} {a : α} {s s' : σ}

theorem gatherer_ok {b : β} (h : copy a s = (.ok b, s')) (g : Gathered β) :
  gatherer copy a (g, s) = (.proceed, { g with copies := b :: g.copies }, s')
  := by
  simp [gatherer, h]

theorem gatherer_error {e : Error} (h : copy a s = (.error (.error e), s')) (g : Gathered β) :
  gatherer copy a (g, s) = (.stop, { g with failure := some e }, s')
  := by
  simp [gatherer, h]

/-- Of the items of a history the gatherer copies those before the first one that cannot be
copied. That one, if there is one, ends its part with a stop. -/
theorem gatherer_settles (calm : ∀ a, (copy a).Calm) (items : List α) (g : Gathered β) (s : σ) :
  let f := gatherer copy
  let k := f.proceeds items (g, s)
  ∃ (entries : List β) (s₁ : σ),
    Entries (fun a b s s' => copy a s = (.ok b, s')) (items.take k) entries s s₁
      ∧ match items.drop k with
        | [] => f.last? items (g, s) = none
            ∧ f.after (items.take (k + 1)) (g, s)
              = ({ g with copies := entries.reverse ++ g.copies }, s₁)
        | item :: _ => ∃ e s₂,
            copy item s₁ = (.error (.error e), s₂)
              ∧ f.last? items (g, s) = some .stop
              ∧ f.after (items.take (k + 1)) (g, s)
                = (⟨entries.reverse ++ g.copies, some e⟩, s₂)
  := by
  dsimp only
  induction items generalizing g s with
  | nil => exact ⟨[], s, .nil s, rfl, rfl⟩
  | cons a items ih =>
      rcases hcopy : copy a s with ⟨⟨e | message⟩ | b, s'⟩
      · have hstop := gatherer_error hcopy g
        have hends : (gatherer copy a (g, s)).1.ends = true := by rw [hstop]; rfl
        rw [Applier.proceeds_of_ends items hends, Applier.last?_of_ends items hends]
        use [], s, .nil s, e, s', hcopy
        constructor
        · rw [hstop]
        · simp [Applier.after, hstop]
      · exfalso
        apply calm a s message
        rw [hcopy]
      · have hproceed := gatherer_ok hcopy g
        have hends : (gatherer copy a (g, s)).1.ends = false := by rw [hproceed]; rfl
        rw [Applier.proceeds_of_proceed items hends, Applier.last?_of_proceed items hends]
        obtain ⟨entries, s₁, hentries, hrest⟩ := ih { g with copies := b :: g.copies } s'
        simp only [hproceed, List.take_succ_cons, List.drop_succ_cons, Applier.after_cons]
          at hrest ⊢
        use b :: entries, s₁, .cons hcopy hentries
        split at hrest
        · simpa using hrest
        · simpa using hrest

/-- The answers to the items of a history up to a place and after it. -/
theorem mapIdx_answers (items : List α) (k : Nat) :
  items.mapIdx (fun i a => (a, decide (i < k)))
    = (items.take k).map (fun a => (a, true)) ++ (items.drop k).map (fun a => (a, false))
  := by
  induction items generalizing k with
  | nil => simp
  | cons a items ih =>
      rw [List.mapIdx_cons]
      cases k with
      | zero =>
          have hrest := ih 0
          simp at hrest
          simp [hrest]
      | succ k =>
          have hrest := ih k
          simp [hrest]

/-- How a gathered list comes of the run of its gatherer. -/
theorem gather_of_drive {t : Listing σ α} {result : Except Halt Outcome} {g : Gathered β}
    (h : drive t.convention t.operation (t.start t.convention s).1 (gatherer copy)
      ({}, (t.start t.convention s).2) = (result, g, s')) :
  t.gather copy s
    = (match result, g.failure with
        | .error h, _ => .error h
        | .ok _, some e => .error (.error e)
        | .ok _, none => .ok g.copies.reverse, s')
  := by
  have happly : t.apply (gatherer copy) ({}, s) = (result, g, s') := h
  rw [gather, happly]
  rcases result with h | outcome
  · rfl
  · cases g with
    | mk copies failure => cases failure <;> rfl

/-- A list that is gathered has one entry for each item, and is there only if the library says
that it has handed over every item. If an item cannot be copied, the error is the one of that item
if the library obeys the stop, and a breach of the rules if it does not. -/
theorem gather_settles (t : Listing σ α) (calm : ∀ a, (copy a).Calm) (s : σ) :
  let begun := t.start t.convention s
  ∃ (items : List α) (entries : List β) (refused : List α) (complete : Bool) (s₁ : σ),
    begun.1.Runs (items.map (fun a => (a, true)) ++ refused.map (fun a => (a, false))) complete
      ∧ Entries (fun a b s s' => copy a s = (.ok b, s')) items entries begun.2 s₁
      ∧ match refused with
        | [] => t.gather copy s
            = (if complete then .ok entries else .error (.error (.traversalFailed t.operation)),
                s₁)
        | item :: late => ∃ e s₂,
            copy item s₁ = (.error (.error e), s₂)
              ∧ t.gather copy s
                = (.error (.error (refusal t.operation e late.length complete)), s₂)
  := by
  intro begun
  obtain ⟨items, complete, hruns, -, hdrive⟩ := drive_settles t.convention t.operation
    begun.1 (gatherer copy) ({}, begun.2)
  obtain ⟨entries, s₁, hentries, hrest⟩ := gatherer_settles calm items {} begun.2
  rw [mapIdx_answers] at hruns
  generalize (gatherer copy).proceeds items ({}, begun.2) = k at *
  refine ⟨items.take k, entries, items.drop k, complete, s₁, hruns, hentries, ?_⟩
  have hlate : items.length - (k + 1) = (items.drop k).length - 1 := by
    rw [List.length_drop]
    omega
  rw [hlate] at hdrive
  cases hdrop : items.drop k with
  | nil =>
      rw [hdrop] at hrest hdrive
      rw [hrest.1, hrest.2] at hdrive
      rw [gather_of_drive hdrive]
      cases complete <;> simp [settlement]
  | cons item late =>
      rw [hdrop] at hrest hdrive
      obtain ⟨e, s₂, hcopy, hlast, hafter⟩ := hrest
      rw [hlast, hafter] at hdrive
      use e, s₂, hcopy
      rw [gather_of_drive hdrive]
      cases late <;> cases complete <;> simp [settlement, refusal]

/-- Gathering never panics if copying never does. -/
theorem gather_calm (t : Listing σ α) (calm : ∀ a, (copy a).Calm) :
  (t.gather copy).Calm
  := by
  intro s message
  obtain ⟨_, _, refused, complete, _, -, -, hresult⟩ := t.gather_settles calm s
  split at hresult
  · rw [hresult]
    cases complete <;> simp
  · obtain ⟨e, s₂, -, hgather⟩ := hresult
    simp [hgather]

/-! ### Items that are read before they are copied -/

theorem run_map_items (c : Convention) (f : Applier ρ β) (g : α → β) (play : Play α)
    (s : Progress × ρ) :
  (play.map g).run (c.callback (Progress.dispatch f)) s
    = play.run (c.callback (Progress.dispatch fun a => f (g a))) s
  := by
  induction play generalizing s with
  | finish complete => rfl
  | deliver a next ih =>
      simp only [Play.map, Play.run, Convention.call_callback]
      apply ih

/-- Copying what is read of the items is copying the items. -/
theorem gather_map (t : Listing σ γ) (g : γ → α) :
  (t.map g).gather copy = t.gather fun item => copy (g item)
  := by
  funext s
  simp only [gather, apply, map, drive, run_map_items]
  rfl

/-- The items of an obedient library are gathered in their order, if they are copied without a
change of state. -/
theorem gather_each_of {t : Listing σ α} {items : List α} {f : α → β}
    (h : t.start t.convention s = (.each items, s')) (hcopy : ∀ a, copy a s' = (.ok (f a), s')) :
  t.gather copy s = (.ok (items.map f), s')
  := by
  have hrun : ∀ g : Gathered β,
      (Play.each items).run (t.convention.callback (Progress.dispatch (gatherer copy)))
          ({}, g, s')
        = (true, {}, { g with copies := (items.map f).reverse ++ g.copies }, s') := by
    clear h
    induction items with
    | nil => intro g; rfl
    | cons a items ih =>
        intro g
        have hstep : (t.convention.callback (Progress.dispatch (gatherer copy))).call a ({}, g, s')
            = (true, {}, { g with copies := f a :: g.copies }, s') := by
          rw [Convention.call_callback]
          simp [Progress.dispatch, gatherer, hcopy]
        simp only [Play.each, Play.run, hstep, ↓reduceIte, ih]
        simp
  have hdrive : drive t.convention t.operation (t.start t.convention s).1 (gatherer copy)
      ({}, (t.start t.convention s).2)
      = (.ok .completed, { copies := (items.map f).reverse }, s') := by
    rw [h, drive, hrun]
    simp [Progress.result]
  rw [gather_of_drive hdrive]
  simp

theorem gather_each {t : Listing σ α} {items : List α}
    (h : t.start t.convention s = (.each items, s')) (f : α → β) :
  t.gather (fun a => .pure (f a)) s = (.ok (items.map f), s')
  := by
  apply gather_each_of h
  exact fun _ => rfl

end Listing

end SymbolIndex
