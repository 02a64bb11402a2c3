import SymbolIndex.Proofs.Search.History

/-!
# How a search is settled

Whatever a library does in a search, what is known while it runs accounts for the history of its
calls, and the history alone settles the result: a panic comes first, then questions after a stop,
then items that no acceptance called for, then the stop of the filter, and at last what the
library has returned.
-/

namespace SymbolIndex

open SearchHistory

variable {ρ ρ' α : Type}

/-- How a search ends, by its history and what the library has returned. -/
def searchSettlement (operation : String) (h : List (SearchCall α)) (complete : Bool) :
    Except Halt Outcome :=
  match panic? h with
  | some message => .error (.panic message)
  | none =>
    if 0 < late h then .error (.error (.breach operation (.filteredAfterStop (late h))))
    else if 0 < unrequested h then
      .error (.error (.breach operation (.receivedRejected (unrequested h))))
    else if stopped h then .ok .stopped
    else if complete then .ok .completed
    else .error (.error (.traversalFailed operation))

/-- What is known of a search accounts for its history. Items that were given after a panic need
not be counted. -/
structure SearchHistory.Accounted (h : List (SearchCall α)) (p : SearchProgress) : Prop where
  stopped : p.stopped = true ↔ Ended h
  outstanding : p.outstanding + (received h).length = (accepted h).length
  late : p.late = late h
  unrequested : panic? h = none → p.unrequested = unrequested h
  panic : p.panic = panic? h

namespace SearchHistory

variable (h : List (SearchCall α)) (call : SearchCall α)

/-! ### One more call -/

@[simp]
theorem accepted_snoc :
  accepted (h ++ [call]) = accepted h ++ call.accepted?.toList
  := by
  cases hcall : call.accepted? <;> simp [accepted, hcall]

@[simp]
theorem received_snoc :
  received (h ++ [call]) = received h ++ call.received?.toList
  := by
  cases hcall : call.received? <;> simp [received, hcall]

@[simp]
theorem notes_snoc :
  notes (h ++ [call]) = notes h ++ call.note?.toList
  := by
  cases hcall : call.note? <;> simp [notes, hcall]

@[simp]
theorem panic?_snoc :
  panic? (h ++ [call]) = (panic? h).or call.panic?
  := by
  cases hcall : call.panic? <;> simp [panic?, List.findSome?_append, hcall]

@[simp]
theorem stopped_snoc :
  stopped (h ++ [call]) = (stopped h || call.asksToStop)
  := by
  simp [stopped]

@[simp]
theorem late_snoc :
  late (h ++ [call]) = late h + (if call.asksInVain then 1 else 0)
  := by
  simp [late, List.countP_append, List.countP_singleton]

@[simp]
theorem unrequested_snoc :
  unrequested (h ++ [call]) = unrequested h + (if call.givesInVain then 1 else 0)
  := by
  simp [unrequested, List.countP_append, List.countP_singleton]

/-! ### What is known after one more call -/

variable {h : List (SearchCall α)} {p : SearchProgress} (a : α) (answer : Verdict)

theorem Accounted.start :
  Accounted ([] : List (SearchCall α)) {}
  := by
  constructor <;> simp [Ended, panic?, SearchHistory.stopped, received, accepted,
    SearchHistory.late, SearchHistory.unrequested]

/-- The receiver may be run exactly if no panic is known and something is known to be
outstanding. -/
theorem Accounted.receptive_iff (hp : Accounted h p) :
  Receptive h ↔ p.panic = none ∧ p.outstanding ≠ 0
  := by
  rw [Receptive, Outstanding, hp.panic, ← hp.outstanding]
  apply and_congr_right
  intro _
  omega

theorem Accounted.askLate (hp : Accounted h p) :
  Accounted (h ++ [.ask a none answer]) { p with late := p.late + 1 }
  := by
  constructor
  · simpa [Ended, SearchCall.asksToStop, SearchCall.panic?] using hp.stopped
  · simpa [SearchCall.received?, SearchCall.accepted?] using hp.outstanding
  · simp [SearchCall.asksInVain, hp.late]
  · simpa [SearchCall.panic?, SearchCall.givesInVain] using hp.unrequested
  · simpa [SearchCall.panic?] using hp.panic

theorem Accounted.askFilter (hp : Accounted h p) (hopen : ¬ Ended h) (v : Verdict) :
  Accounted (h ++ [.ask a (some (.verdict v)) answer]) { p with
    stopped := v.stop
    outstanding := if v.accept then p.outstanding + 1 else p.outstanding }
  := by
  obtain ⟨hgoing, hcalm⟩ := not_or.mp hopen
  constructor
  · simp [Ended, SearchCall.asksToStop, SearchCall.panic?, hgoing, not_not.mp hcalm]
  · have houtstanding := hp.outstanding
    cases haccept : v.accept
    · simpa [SearchCall.received?, SearchCall.accepted?, haccept] using houtstanding
    · simp [SearchCall.received?, SearchCall.accepted?, haccept]
      omega
  · simp [SearchCall.asksInVain, hp.late]
  · simpa [SearchCall.panic?, SearchCall.givesInVain] using hp.unrequested
  · simpa [SearchCall.panic?] using hp.panic

theorem Accounted.askPanic (hp : Accounted h p) (hopen : ¬ Ended h) (message : String) :
  Accounted (h ++ [.ask a (some (.panic message)) answer])
    { p with stopped := true, panic := some message }
  := by
  obtain ⟨hgoing, hcalm⟩ := not_or.mp hopen
  constructor
  · simp [Ended, SearchCall.panic?]
  · simpa [SearchCall.received?, SearchCall.accepted?] using hp.outstanding
  · simp [SearchCall.asksInVain, hp.late]
  · simp [SearchCall.panic?]
  · simp [SearchCall.panic?, not_not.mp hcalm]

theorem Accounted.giveRefused (hp : Accounted h p) (hcalm : panic? h = none) :
  Accounted (h ++ [.give a none]) { p with unrequested := p.unrequested + 1 }
  := by
  constructor
  · simpa [Ended, SearchCall.asksToStop, SearchCall.panic?] using hp.stopped
  · simpa [SearchCall.received?, SearchCall.accepted?] using hp.outstanding
  · simpa [SearchCall.asksInVain] using hp.late
  · simp [SearchCall.givesInVain, hp.unrequested hcalm]
  · simpa [SearchCall.panic?] using hp.panic

theorem Accounted.giveAfterPanic (hp : Accounted h p) (hpanic : panic? h ≠ none) :
  Accounted (h ++ [.give a none]) p
  := by
  constructor
  · simpa [Ended, SearchCall.asksToStop, SearchCall.panic?] using hp.stopped
  · simpa [SearchCall.received?, SearchCall.accepted?] using hp.outstanding
  · simpa [SearchCall.asksInVain] using hp.late
  · simp [SearchCall.panic?, hpanic]
  · simpa [SearchCall.panic?] using hp.panic

theorem Accounted.giveReceiver (hp : Accounted h p) (hsome : p.outstanding ≠ 0) :
  Accounted (h ++ [.give a (some none)]) { p with outstanding := p.outstanding - 1 }
  := by
  constructor
  · simpa [Ended, SearchCall.asksToStop, SearchCall.panic?] using hp.stopped
  · have houtstanding := hp.outstanding
    simp [SearchCall.received?, SearchCall.accepted?]
    omega
  · simpa [SearchCall.asksInVain] using hp.late
  · simpa [SearchCall.panic?, SearchCall.givesInVain] using hp.unrequested
  · simpa [SearchCall.panic?] using hp.panic

theorem Accounted.givePanic (hp : Accounted h p) (hcalm : panic? h = none)
    (hsome : p.outstanding ≠ 0) (message : String) :
  Accounted (h ++ [.give a (some (some message))])
    { p with outstanding := p.outstanding - 1, stopped := true, panic := some message }
  := by
  constructor
  · simp [Ended, SearchCall.panic?]
  · have houtstanding := hp.outstanding
    simp [SearchCall.received?, SearchCall.accepted?]
    omega
  · simpa [SearchCall.asksInVain] using hp.late
  · simp [SearchCall.panic?]
  · simp [SearchCall.panic?, hcalm]

/-! ### One call -/

variable {f : Searcher ρ α} {r₀ r : ρ}

/-- A question is answered by a rule of the trace, and what is known goes on to account for the
history. -/
theorem Accounted.ask (hp : Accounted h p) (past : f.Trace r₀ h r) :
  ∃ reply answer p' r', SearchProgress.ask f a (p, r) = (answer, p', r')
    ∧ f.Trace r₀ (h ++ [.ask a reply answer]) r'
    ∧ Accounted (h ++ [.ask a reply answer]) p'
  := by
  by_cases hended : Ended h
  · have hstopped : p.stopped = true := hp.stopped.mpr hended
    use none, .rejectedLast, { p with late := p.late + 1 }, r
    constructor
    · simp [SearchProgress.ask, hstopped]
    · constructor
      · apply Searcher.Trace.late past hended
      · apply hp.askLate
  · have hstopped : p.stopped = false := by
      simpa using mt hp.stopped.mp hended
    have htrace := Searcher.Trace.filter past hended a
    rcases hreply : f.filter a r with ⟨v | message, r'⟩
    · rw [hreply] at htrace
      refine ⟨_, _, _, _, ?_, htrace, hp.askFilter a _ hended v⟩
      simp [SearchProgress.ask, hstopped, hreply, FilterReply.answer]
    · rw [hreply] at htrace
      refine ⟨_, _, _, _, ?_, htrace, hp.askPanic a _ hended message⟩
      simp [SearchProgress.ask, hstopped, hreply, FilterReply.answer]

/-- An item that is given is dealt with by a rule of the trace, and what is known goes on to
account for the history. -/
theorem Accounted.give (hp : Accounted h p) (past : f.Trace r₀ h r) :
  ∃ reply p' r', SearchProgress.give f a (p, r) = ((), p', r')
    ∧ f.Trace r₀ (h ++ [.give a reply]) r'
    ∧ Accounted (h ++ [.give a reply]) p'
  := by
  by_cases hreceptive : Receptive h
  · obtain ⟨hcalm, hsome⟩ := hp.receptive_iff.mp hreceptive
    have htrace := Searcher.Trace.receive past hreceptive a
    rcases hreply : f.receive a r with ⟨_ | message, r'⟩
    · rw [hreply] at htrace
      refine ⟨_, _, _, ?_, htrace, hp.giveReceiver a hsome⟩
      simp [SearchProgress.give, hcalm, hsome, hreply]
    · rw [hreply] at htrace
      refine ⟨_, _, _, ?_, htrace, hp.givePanic a hreceptive.1 hsome message⟩
      simp [SearchProgress.give, hcalm, hsome, hreply]
  · have htrace := Searcher.Trace.refuse past hreceptive a
    by_cases hcalm : panic? h = none
    · have hnone : p.outstanding = 0 := by
        by_contra hsome
        apply hreceptive
        apply hp.receptive_iff.mpr
        constructor
        · rw [hp.panic, hcalm]
        · apply hsome
      refine ⟨_, _, _, ?_, htrace, hp.giveRefused a hcalm⟩
      simp [SearchProgress.give, hp.panic, hcalm, hnone]
    · refine ⟨_, _, _, ?_, htrace, hp.giveAfterPanic a hcalm⟩
      simp [SearchProgress.give, hp.panic, Option.isSome_iff_ne_none, hcalm]

/-! ### The end -/

theorem Accounted.result (hp : Accounted h p) (operation : String) (complete : Bool) :
  p.result operation complete = searchSettlement operation h complete
  := by
  rw [SearchProgress.result, searchSettlement, hp.panic, hp.late]
  cases hpanic : panic? h with
  | some message => rfl
  | none =>
      have hstopped : p.stopped = SearchHistory.stopped h := by
        rw [Bool.eq_iff_iff, hp.stopped, Ended]
        simp [hpanic]
      rw [hp.unrequested hpanic, hstopped]

end SearchHistory

/-! ### A whole play -/

/-- From any point on, a play goes on with a history by the rules of the trace. -/
theorem SearchPlay.run_accounted (c : Convention) (f : Searcher ρ α) (play : SearchPlay α)
    {r₀ r : ρ} {h : List (SearchCall α)} {p : SearchProgress} (hp : Accounted h p)
    (past : f.Trace r₀ h r) :
  ∃ later complete p' r', play.Runs later complete
    ∧ play.run (c.callback (SearchProgress.ask f)) (c.callback (SearchProgress.give f)) (p, r)
        = (complete, p', r')
    ∧ f.Trace r₀ (h ++ later) r'
    ∧ Accounted (h ++ later) p'
  := by
  induction play generalizing h p r with
  | finish complete =>
      use [], complete, p, r, .finish complete, rfl
      rw [List.append_nil]
      apply And.intro past hp
  | ask a next ih =>
      obtain ⟨reply, answer, p₁, r₁, hask, hpast, hp₁⟩ := hp.ask a past
      obtain ⟨later, complete, p', r', hruns, hrun, htrace, hp'⟩ := ih answer hp₁ hpast
      use .ask a reply answer :: later, complete, p', r', .ask hruns
      constructor
      · rw [run, Convention.call_callback, hask]
        apply hrun
      · rw [List.append_cons]
        apply And.intro htrace hp'
  | give a next ih =>
      obtain ⟨reply, p₁, r₁, hgive, hpast, hp₁⟩ := hp.give a past
      obtain ⟨later, complete, p', r', hruns, hrun, htrace, hp'⟩ := ih hp₁ hpast
      use .give a reply :: later, complete, p', r', .give hruns
      constructor
      · rw [run, Convention.call_callback, hgive]
        apply hrun
      · rw [List.append_cons]
        apply And.intro htrace hp'

/-! ### What holds of every trace -/

namespace Searcher

variable {f : Searcher ρ α} {r₀ r : ρ} {h : List (SearchCall α)}

/-- A beginning of a history has come about by the same rules. -/
theorem Trace.beginning (trace : f.Trace r₀ h r) {before : List (SearchCall α)}
    (hbefore : before <+: h) :
  ∃ r', f.Trace r₀ before r'
  := by
  induction trace with
  | start =>
      rw [List.prefix_nil.mp hbefore]
      use r₀, .start
  | @filter _ r₁ past open_ a ih =>
      rcases List.prefix_concat_iff.mp hbefore with rfl | hbefore
      · use (f.filter a r₁).2, .filter past open_ a
      · apply ih hbefore
  | @late _ r₁ past ended a ih =>
      rcases List.prefix_concat_iff.mp hbefore with rfl | hbefore
      · use r₁, .late past ended a
      · apply ih hbefore
  | @receive _ r₁ past receptive a ih =>
      rcases List.prefix_concat_iff.mp hbefore with rfl | hbefore
      · use (f.receive a r₁).2, .receive past receptive a
      · apply ih hbefore
  | @refuse _ r₁ past idle a ih =>
      rcases List.prefix_concat_iff.mp hbefore with rfl | hbefore
      · use r₁, .refuse past idle a
      · apply ih hbefore

/-- The receiver was run on at most as many items as were accepted. -/
theorem Trace.received_le (trace : f.Trace r₀ h r) :
  (received h).length ≤ (accepted h).length
  := by
  induction trace with
  | start => apply Nat.le_refl
  | filter past open_ a ih =>
      simp [SearchCall.received?]
      omega
  | late past ended a ih => simpa [SearchCall.received?, SearchCall.accepted?] using ih
  | receive past receptive a ih =>
      have hlt := receptive.2
      rw [Outstanding] at hlt
      simp [SearchCall.received?, SearchCall.accepted?]
      omega
  | refuse past idle a ih => simpa [SearchCall.received?, SearchCall.accepted?] using ih

/-- Notes change nothing of a trace, and in the end they are the notes of its history. -/
theorem Trace.ofNoted {s : List (SearchNote α) × ρ} (trace : f.noted.Trace ([], r₀) h s) :
  f.Trace r₀ h s.2 ∧ s.1 = notes h
  := by
  induction trace with
  | start => apply And.intro .start rfl
  | filter past open_ a ih =>
      apply And.intro (.filter ih.1 open_ a)
      simp [noted, SearchCall.note?, ih.2]
  | late past ended a ih =>
      apply And.intro (.late ih.1 ended a)
      simp [SearchCall.note?, ih.2]
  | receive past receptive a ih =>
      apply And.intro (.receive ih.1 receptive a)
      simp [noted, SearchCall.note?, ih.2]
  | refuse past idle a ih =>
      apply And.intro (.refuse ih.1 idle a)
      simp [SearchCall.note?, ih.2]

end Searcher

/-! ### A whole search -/

/-- A map of states that a searcher respects is respected by every run. -/
theorem SearchPlay.run_map (c : Convention) (f : Searcher ρ α) (g : ρ → ρ')
    (f' : Searcher ρ' α)
    (hfilter : ∀ a r, f'.filter a (g r) = ((f.filter a r).1, g (f.filter a r).2))
    (hreceive : ∀ a r, f'.receive a (g r) = ((f.receive a r).1, g (f.receive a r).2))
    (play : SearchPlay α) (p : SearchProgress) (r : ρ) :
  play.run (c.callback (SearchProgress.ask f')) (c.callback (SearchProgress.give f')) (p, g r)
    = Prod.map id (Prod.map id g)
        (play.run (c.callback (SearchProgress.ask f)) (c.callback (SearchProgress.give f)) (p, r))
  := by
  induction play generalizing p r with
  | finish complete => rfl
  | ask a next ih =>
      have hstep : SearchProgress.ask f' a (p, g r)
          = Prod.map id (Prod.map id g) (SearchProgress.ask f a (p, r)) := by
        simp only [SearchProgress.ask, hfilter]
        cases p.stopped
        · rcases f.filter a r with ⟨_ | _, _⟩ <;> rfl
        · rfl
      simp only [run, Convention.call_callback, hstep]
      apply ih
  | give a next ih =>
      have hstep : SearchProgress.give f' a (p, g r)
          = Prod.map id (Prod.map id g) (SearchProgress.give f a (p, r)) := by
        simp only [SearchProgress.give, hreceive]
        split
        · rfl
        split
        · rfl
        · rcases f.receive a r with ⟨_ | _, _⟩ <;> rfl
      simp only [run, Convention.call_callback, hstep]
      apply ih

/-- A map of states that a searcher respects is respected by every search. -/
theorem driveSearch_map (c : Convention) (operation : String) (play : SearchPlay α)
    (f : Searcher ρ α) (g : ρ → ρ') (f' : Searcher ρ' α)
    (hfilter : ∀ a r, f'.filter a (g r) = ((f.filter a r).1, g (f.filter a r).2))
    (hreceive : ∀ a r, f'.receive a (g r) = ((f.receive a r).1, g (f.receive a r).2)) (r : ρ) :
  driveSearch c operation play f' (g r) = Prod.map id g (driveSearch c operation play f r)
  := by
  rw [driveSearch, SearchPlay.run_map c f g f' hfilter hreceive]
  rfl

/-- A search is settled by a history of calls that came about by the rules of the trace. -/
theorem driveSearch_traced (c : Convention) (operation : String) (play : SearchPlay α)
    (f : Searcher ρ α) (r : ρ) :
  ∃ (h : List (SearchCall α)) (complete : Bool) (r' : ρ),
    play.Runs h complete
      ∧ f.Trace r h r'
      ∧ driveSearch c operation play f r = (searchSettlement operation h complete, r')
  := by
  obtain ⟨h, complete, p', r', hruns, hrun, htrace, hp'⟩ :=
    play.run_accounted c f Accounted.start .start
  use h, complete, r', hruns, htrace
  rw [driveSearch, hrun]
  rw [List.nil_append] at hp'
  simp only [hp'.result]

/-- A search is settled by its history, which came about by the rules of the trace. What was run,
and in which order, is what the history says. The receiver is never ahead of the filter, and the
history alone says how the search ends. -/
theorem driveSearch_settles (c : Convention) (operation : String) (play : SearchPlay α)
    (f : Searcher ρ α) (r : ρ) :
  ∃ (h : List (SearchCall α)) (complete : Bool) (r' : ρ),
    play.Runs h complete
      ∧ f.Trace r h r'
      ∧ (∀ before, before <+: h → (received before).length ≤ (accepted before).length)
      ∧ driveSearch c operation play f.noted ([], r)
          = (searchSettlement operation h complete, notes h, r')
      ∧ driveSearch c operation play f r = (searchSettlement operation h complete, r')
  := by
  obtain ⟨h, complete, ⟨noted, r'⟩, hruns, htrace, hdrive⟩ :=
    driveSearch_traced c operation play f.noted ([], r)
  obtain ⟨htrace, hnotes⟩ := htrace.ofNoted
  simp only at htrace hnotes
  rw [hnotes] at hdrive
  have hle : ∀ before, before <+: h → (received before).length ≤ (accepted before).length := by
    intro before hbefore
    obtain ⟨_, htrace⟩ := htrace.beginning hbefore
    apply htrace.received_le
  use h, complete, r', hruns, htrace, hle, hdrive
  have hmap := driveSearch_map c operation play f.noted Prod.snd f (fun _ _ => rfl)
    (fun _ _ => rfl) ([], r)
  rw [hdrive] at hmap
  apply hmap

end SymbolIndex
