import SymbolIndex.Proofs.Traversal.History

/-!
# How a traversal is settled

Whatever a library does, the applier of a traversal is run on the items of its history up to the
first one at which it stops or panics, the library is told to stop from that item on, and the
result is settled by the history alone: a panic comes first, then items that were handed over too
late, then what the library has returned.
-/

namespace SymbolIndex

variable {ρ ρ' α : Type}

/-- How a traversal ends, by the reply with which the applier ended its part, the number of items
that were handed over after that, and what the library has returned. -/
def settlement (operation : String) : Option Reply → Nat → Bool → Except Halt Outcome
  | some (.panic message), _, _ => .error (.panic message)
  | some .stop, late + 1, _ => .error (.error (.breach operation (.appliedAfterStop (late + 1))))
  | some .stop, 0, true => .error (.error (.breach operation .completedAfterStop))
  | some .stop, 0, false => .ok .stopped
  | _, _, true => .ok .completed
  | _, _, false => .error (.error (.traversalFailed operation))

namespace Progress

/-- The progress after a history in which the applier ended its part in some way, or in none, and
some items came after that. -/
def ofHistory : Option Reply → Nat → Progress
  | some (.panic message), late => { stopped := true, late, panic := some message }
  | some .stop, late => { stopped := true, late }
  | _, _ => {}

theorem result_ofHistory (operation : String) (last : Option Reply) (late : Nat)
    (complete : Bool) :
  (ofHistory last late).result operation complete = settlement operation last late complete
  := by
  rcases last with _ | _ | _ | message
  · cases complete <;> rfl
  · cases complete <;> rfl
  · cases late <;> cases complete <;> simp [ofHistory, result, settlement]
  · rfl

/-- An applier that proceeds has not ended its part. -/
theorem ofHistory_of_proceed {reply : Reply} (h : reply.ends = false) (late : Nat) :
  ofHistory (some reply) late = {}
  := by
  cases reply with
  | proceed => rfl
  | stop => cases h
  | panic message => cases h

theorem stopped_ofHistory {reply : Reply} (h : reply.ends = true) (late : Nat) :
  (ofHistory (some reply) late).stopped = true
  := by
  cases reply with
  | proceed => cases h
  | stop => rfl
  | panic message => rfl

theorem ofHistory_late {reply : Reply} (h : reply.ends = true) (late : Nat) :
  { ofHistory (some reply) 0 with late := (ofHistory (some reply) 0).late + late }
    = ofHistory (some reply) late
  := by
  cases reply with
  | proceed => cases h
  | stop => simp [ofHistory]
  | panic message => simp [ofHistory]

/-! ### One item -/

theorem dispatch_stopped (f : Applier ρ α) (a : α) (p : Progress) (r : ρ)
    (h : p.stopped = true) :
  dispatch f a (p, r) = (false, { p with late := p.late + 1 }, r)
  := by
  simp [dispatch, h]

/-- The first item either changes nothing that is known, or ends the part of the applier. -/
theorem dispatch_fresh (f : Applier ρ α) (a : α) (r : ρ) :
  dispatch f a ({}, r) = (!(f a r).1.ends, ofHistory (some (f a r).1) 0, (f a r).2)
  := by
  rcases h : f a r with ⟨_ | _ | message, r'⟩
  all_goals simp [dispatch, h, Reply.ends, ofHistory]

end Progress

/-! ### A whole play -/

namespace Play

variable (c : Convention) (f : Applier ρ α)

/-- After a stop the applier is left alone, every item is counted, and the library is told to
stop each time. -/
theorem run_stopped (play : Play α) (p : Progress) (r : ρ) (h : p.stopped = true) :
  ∃ (items : List α) (complete : Bool),
    play.Runs (items.map fun a => (a, false)) complete
      ∧ play.run (c.callback (Progress.dispatch f)) (p, r)
          = (complete, { p with late := p.late + items.length }, r)
  := by
  induction play generalizing p with
  | finish complete =>
      use [], complete, .finish complete
      rfl
  | deliver a next ih =>
      obtain ⟨items, complete, hruns, hrun⟩ := ih false { p with late := p.late + 1 } h
      use a :: items, complete, .deliver hruns
      rw [run, Convention.call_callback, Progress.dispatch_stopped f a p r h]
      simp only [hrun, List.length_cons]
      congr 3
      omega

/-- A play that is run from the beginning leaves a history that says everything: what is known in
the end, and which items the applier has been run on. -/
theorem run_fresh (play : Play α) (r : ρ) :
  ∃ (items : List α) (complete : Bool),
    play.Runs (items.mapIdx fun i a => (a, decide (i < f.proceeds items r))) complete
      ∧ play.run (c.callback (Progress.dispatch f)) ({}, r)
          = (complete,
              .ofHistory (f.last? items r) (items.length - (f.proceeds items r + 1)),
              f.after (items.take (f.proceeds items r + 1)) r)
  := by
  induction play generalizing r with
  | finish complete =>
      use [], complete, .finish complete
      rfl
  | deliver a next ih =>
      have hstep := Progress.dispatch_fresh f a r
      cases hends : (f a r).1.ends with
      | false =>
          obtain ⟨items, complete, hruns, hrun⟩ := ih true (f a r).2
          use a :: items, complete
          rw [Applier.proceeds_of_proceed items hends, Applier.last?_of_proceed items hends]
          constructor
          · rw [List.mapIdx_cons]
            apply Play.Runs.deliver
            simpa using hruns
          · rw [run, Convention.call_callback, hstep, hends,
              Progress.ofHistory_of_proceed hends]
            simpa using hrun
      | true =>
          obtain ⟨items, complete, hruns, hrun⟩ := run_stopped c f (next false)
            (.ofHistory (some (f a r).1) 0) (f a r).2 (Progress.stopped_ofHistory hends 0)
          use a :: items, complete
          rw [Applier.proceeds_of_ends items hends, Applier.last?_of_ends items hends]
          constructor
          · have hfalse : items.mapIdx (fun i a => (a, decide (i + 1 < 0)))
                = items.map fun a => (a, false) := by
              apply List.mapIdx_eq_iff.mpr
              simp
            rw [List.mapIdx_cons, hfalse]
            apply Play.Runs.deliver hruns
          · rw [run, Convention.call_callback, hstep, hends]
            simp only [Bool.not_true, hrun, Progress.ofHistory_late hends]
            simp [Applier.after]

/-- A map of states that an applier respects is respected by every run. -/
theorem run_map (g : ρ → ρ') (f' : Applier ρ' α)
    (h : ∀ a r, f' a (g r) = ((f a r).1, g (f a r).2)) (play : Play α) (p : Progress) (r : ρ) :
  play.run (c.callback (Progress.dispatch f')) (p, g r)
    = Prod.map id (Prod.map id g) (play.run (c.callback (Progress.dispatch f)) (p, r))
  := by
  induction play generalizing p r with
  | finish complete => rfl
  | deliver a next ih =>
      have hstep : Progress.dispatch f' a (p, g r)
          = Prod.map id (Prod.map id g) (Progress.dispatch f a (p, r)) := by
        simp only [Progress.dispatch, h]
        cases p.stopped
        · rcases f a r with ⟨_ | _ | _, _⟩ <;> rfl
        · rfl
      simp only [run, Convention.call_callback, hstep]
      apply ih

end Play

/-- A map of states that an applier respects is respected by every traversal. -/
theorem drive_map (c : Convention) (operation : String) (play : Play α) (f : Applier ρ α)
    (g : ρ → ρ') (f' : Applier ρ' α) (h : ∀ a r, f' a (g r) = ((f a r).1, g (f a r).2))
    (r : ρ) :
  drive c operation play f' (g r) = Prod.map id g (drive c operation play f r)
  := by
  rw [drive, Play.run_map c f g f' h]
  rfl

/-- A traversal is settled by its history. The applier is run once on each item up to the first
one at which it stops or panics, in order, and on no other. The library is told to go on before
that item and to stop from it on. -/
theorem drive_settles (c : Convention) (operation : String) (play : Play α) (f : Applier ρ α)
    (r : ρ) :
  ∃ (items : List α) (complete : Bool),
    let k := f.proceeds items r
    let seen := items.take (k + 1)
    let result := settlement operation (f.last? items r) (items.length - (k + 1)) complete
    play.Runs (items.mapIdx fun i a => (a, decide (i < k))) complete
      ∧ drive c operation play f.noted ([], r) = (result, seen, f.after seen r)
      ∧ drive c operation play f r = (result, f.after seen r)
  := by
  obtain ⟨items, complete, hruns, hrun⟩ := Play.run_fresh c f.noted play ([], r)
  rw [Applier.proceeds_noted] at hruns
  rw [Applier.proceeds_noted, Applier.last?_noted, Applier.after_noted, List.nil_append] at hrun
  have hnoted : drive c operation play f.noted ([], r)
      = (settlement operation (f.last? items r) (items.length - (f.proceeds items r + 1)) complete,
          items.take (f.proceeds items r + 1),
          f.after (items.take (f.proceeds items r + 1)) r) := by
    rw [drive, hrun]
    simp only [Progress.result_ofHistory]
  use items, complete, hruns, hnoted
  have hmap := drive_map c operation play f.noted Prod.snd f (fun _ _ => rfl) ([], r)
  rw [hnoted] at hmap
  apply hmap

end SymbolIndex
