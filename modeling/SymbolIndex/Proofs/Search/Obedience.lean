import SymbolIndex.Proofs.Search.History

/-!
# Searches of obedient libraries

A library that goes through the items of a list, gives each accepted item to the receiver at once,
and stops when it is told to lets a client see the list up to the first item at which its filter
asks to stop.
-/

namespace SymbolIndex

variable {ρ α : Type}

/-- What a client does with the items of a list: whether it has asked to stop, and the state in
which it is left. -/
def Client.through (k : Client ρ α) : List α → ρ → Bool × ρ
  | [], r => (false, r)
  | a :: as, r =>
    match k.filter a r with
    | (v, r) =>
      let r := if v.accept then k.receive a r else r
      if v.stop then (true, r) else k.through as r

/-- After each item nothing is outstanding, so the search goes on as it began. -/
theorem SearchPlay.run_each (c : Convention) (k : Client ρ α) (items : List α) (r : ρ) :
  (each items).run (c.callback (SearchProgress.ask k.searcher))
      (c.callback (SearchProgress.give k.searcher)) ({}, r)
    = (!(k.through items r).1, { stopped := (k.through items r).1 }, (k.through items r).2)
  := by
  induction items generalizing r with
  | nil => rfl
  | cons a items ih =>
      rcases hverdict : k.filter a r with ⟨⟨accept, stop⟩, r'⟩
      cases accept with
      | false =>
          cases stop with
          | false => simp [each, run, Client.through, SearchProgress.ask, Client.searcher, hverdict,
              ← ih]
          | true => simp [each, run, Client.through, SearchProgress.ask, Client.searcher, hverdict]
      | true =>
          cases stop with
          | false => simp [each, run, Client.through, SearchProgress.ask, SearchProgress.give,
              Client.searcher, hverdict, ← ih]
          | true => simp [each, run, Client.through, SearchProgress.ask, SearchProgress.give,
              Client.searcher, hverdict]

/-- A search ends as stopped if the filter has asked to stop, and as completed if it has not. -/
theorem driveSearch_each (c : Convention) (operation : String) (k : Client ρ α) (items : List α)
    (r : ρ) :
  driveSearch c operation (.each items) k.searcher r
    = (.ok (if (k.through items r).1 then .stopped else .completed), (k.through items r).2)
  := by
  rw [driveSearch, SearchPlay.run_each]
  cases (k.through items r).1 <;> simp [SearchProgress.result]

/-- The first panic remains the panic of the search. -/
theorem SearchPlay.panic_run (c : Convention) (f : Searcher ρ α) (play : SearchPlay α)
    {p : SearchProgress} (hstopped : p.stopped = true) (hpanic : p.panic.isSome = true) (r : ρ) :
  (play.run (c.callback (SearchProgress.ask f)) (c.callback (SearchProgress.give f))
    (p, r)).2.1.panic.isSome = true
  := by
  induction play generalizing p with
  | finish complete => exact hpanic
  | ask a next ih =>
      simp only [run, Convention.call_callback, SearchProgress.ask, hstopped, ↓reduceIte]
      exact ih .rejectedLast rfl hpanic
  | give a next ih =>
      simp only [run, Convention.call_callback, SearchProgress.give, hpanic, ↓reduceIte]
      exact ih hstopped hpanic

/-- An obedient library goes through all items, or is stopped, or there is a panic. Nothing is asked
or given against the rules. -/
theorem SearchPlay.run_each_cases (c : Convention) (f : Searcher ρ α) (items : List α) (r : ρ) :
  let x := (each items).run (c.callback (SearchProgress.ask f))
    (c.callback (SearchProgress.give f)) ({}, r)
  x.2.1.panic.isSome = true ∨ x.2.1 = { stopped := true } ∨ x.1 = true ∧ x.2.1 = {}
  := by
  induction items generalizing r with
  | nil => exact .inr (.inr ⟨rfl, rfl⟩)
  | cons a items ih =>
      rcases hfilter : f.filter a r with ⟨⟨accept, stop⟩ | message, r'⟩
      case panic =>
          left
          simp only [each, run, Convention.call_callback, SearchProgress.ask, Bool.false_eq_true,
            ↓reduceIte, hfilter]
          apply panic_run <;> rfl
      case verdict =>
          cases accept with
          | false =>
              cases stop with
              | true => simp [each, run, SearchProgress.ask, hfilter]
              | false => simpa [each, run, SearchProgress.ask, hfilter] using ih r'
          | true =>
              rcases hreceive : f.receive a r' with ⟨_ | message, r''⟩
              · cases stop with
                | true => simp [each, run, SearchProgress.ask, SearchProgress.give, hfilter,
                    hreceive]
                | false => simpa [each, run, SearchProgress.ask, SearchProgress.give, hfilter,
                    hreceive] using ih r''
              · left
                simp only [each, run, Convention.call_callback, SearchProgress.ask,
                  SearchProgress.give, Bool.false_eq_true, ↓reduceIte, hfilter,
                  Option.isSome_none, Nat.zero_add, Nat.one_ne_zero, hreceive]
                apply panic_run <;> rfl

/-- Even if the filter or the receiver panics, a search of an obedient library ends without an
error. -/
theorem driveSearch_each_ne_error (c : Convention) (operation : String) (items : List α)
    (f : Searcher ρ α) (r : ρ) (err : Error) :
  (driveSearch c operation (.each items) f r).1 ≠ .error (.error err)
  := by
  have hcases := SearchPlay.run_each_cases c f items r
  rw [driveSearch]
  rcases hrun : (SearchPlay.each items).run (c.callback (SearchProgress.ask f))
    (c.callback (SearchProgress.give f)) ({}, r) with ⟨complete, p, r'⟩
  rw [hrun] at hcases
  obtain hpanic | rfl | ⟨rfl, rfl⟩ := hcases
  · obtain ⟨message, hmessage⟩ : ∃ message, p.panic = some message :=
      Option.isSome_iff_exists.mp hpanic
    simp [SearchProgress.result, hmessage]
  · exact nofun
  · exact nofun

end SymbolIndex
