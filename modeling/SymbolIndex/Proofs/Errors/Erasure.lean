import SymbolIndex.Proofs.Answers.Calls
import SymbolIndex.Proofs.Errors.Indifference

/-!
# Calls that fail

If the calls that fail are left out of what a client does, every other call is answered as before.
-/

namespace SymbolIndex

open Text (Octets)

variable {α β : Type} {s t : Scene}

/-- The call has ended with an error. -/
def Call.Answer.fails : Call.Answer → Bool
  | given (.error (.error _)) => true
  | play (some (.error _)) => true
  | _ => false

namespace Scene

/-- Of calls that are made one after the other those that do not fail. -/
def succeeding : List Call → Scene → List Call
  | [], _ => []
  | c :: calls, s =>
    if (c.answer s).fails then succeeding calls (c.run s) else c :: succeeding calls (c.run s)

end Scene

/-! ### One call -/

theorem Error.alike_trace (err : Error) {a : Archive} (ha : a.errors.Sound) (directory : Path) :
  a.Alike (err.trace directory a)
  := by
  cases err with
  | store e =>
      refine .intro { a.errors with next := a.errors.next + 1 } _ ha ⟨?_, ha.distinct⟩
      exact fun e he => Nat.lt_succ_of_lt (ha.fresh e he)
  | _ => exact .refl ha

theorem Reading.items_alike (t : Reading α) {a b : Archive} (h : a.Alike b) :
  t.items a = t.items b
  := by
  obtain ⟨errors, ledger, -, -⟩ := h
  cases t <;> rfl

/-- To begin a traversal may be counted, and does nothing else. -/
theorem Reading.alike_start (t : Reading α) {listing : Listing Archive α} (hs : s.Sound)
    (h : t.listing? s.1 = some (.ok listing)) :
  s.2.Alike (listing.start listing.convention s.2).2
  := by
  have hsound := hs.archive.errorTable
  rcases t.start_cases hs h with hsame | ⟨record, r, selection, hr, -, hselect⟩
  · rw [hsame]
    exact .refl hsound
  · have hbackend : r.library.backend = Archive.backend := hs.honest.record hr
    rw [hselect]
    simp only [RecordReader.select, hbackend, Archive.backend, Archive.countQuery]
    split
    · exact .intro s.2.errors _ hsound hsound
    · exact .refl hsound

/-- The holdings after a traversal has begun are those before. -/
theorem Reading.alike_begun (t : Reading α) {a : Archive} (h : s.2.Alike a) :
  s.Alike (t.begun s.1, a)
  := by
  obtain ⟨uses, huses⟩ := t.begun_uses s.1
  rw [huses]
  exact .intro uses h

theorem Reading.alike_after (t : Reading α) (hs : s.Sound) :
  s.Alike (t.after s)
  := by
  rw [after]
  split
  case h_1 => exact .refl hs.archive.errorTable
  case h_2 => exact t.alike_begun (.refl hs.archive.errorTable)
  case h_3 listing h => exact t.alike_begun (t.alike_start hs h)

namespace Call

/-- In scenes that are alike a call is answered in the same way, and leaves them alike. -/
theorem indifferent (hs : s.Sound) (ht : t.Sound) (h : s.Alike t) (c : Call) :
  c.answer s = c.answer t ∧ (c.run s).Alike (c.run t)
  := by
  cases c with
  | deed d =>
      obtain ⟨hgiven, hleft⟩ := d.indifferent hs h
      exact ⟨congrArg Answer.given hgiven, hleft⟩
  | handOut r =>
      constructor
      · have hlisting : r.listing? s.1 = r.listing? t.1 := by
          obtain ⟨uses, -⟩ := h
          cases r <;> rfl
        simp only [answer, r.play?_eq hs, r.play?_eq ht, hlisting, r.items_alike h.archive]
      · exact (r.alike_after hs).symm.trans (h.trans (r.alike_after ht))
  | search record =>
      have hsearch : ∀ {s : Scene}, s.Sound → ∀ {r : RecordReader Archive},
          s.1.record? record = some r →
            r.library.backend.search r.library.convention r.ref s.2
              = (.each (s.2.symbolsOf r.ref), s.2) := by
        intro s hs r hr
        have hbackend : r.library.backend = Archive.backend := hs.honest.record hr
        rw [hbackend]
        rfl
      have hsymbols : ∀ ref, s.2.symbolsOf ref = t.2.symbolsOf ref :=
        fun ref => (Reading.symbols ref).items_alike h.archive
      have hsame : t.1.record? record = s.1.record? record := by
        obtain ⟨uses, -⟩ := h
        rfl
      simp only [answer, run, hsame]
      cases hr : s.1.record? record with
      | none => exact ⟨rfl, h⟩
      | some r =>
          simp only [Option.map_some, hsearch hs hr, hsearch ht (hsame.trans hr), hsymbols,
            true_and]
          exact h.note _ _

/-- A call that fails makes no difference. -/
theorem alike_of_fails (hs : s.Sound) {c : Call} (h : (c.answer s).fails = true) :
  s.Alike (c.run s)
  := by
  cases c with
  | deed d =>
      cases hgiven : d.given s with
      | ok x => simp [answer, Answer.fails, hgiven] at h
      | error halt =>
          cases halt with
          | panic message => simp [answer, Answer.fails, hgiven] at h
          | error err =>
              have hfailed := d.run_fst s
              rcases hrun : d.run s with ⟨result, s'⟩
              rw [hrun, hgiven] at hfailed
              obtain rfl : result = .error (.error err) := hfailed
              obtain ⟨uses, directory, rfl, -⟩ := Deed.run_failed hs hrun
              simp only [run, hrun]
              exact .intro uses (err.alike_trace hs.archive.errorTable directory)
  | handOut t => exact t.alike_after hs
  | search record => cases h

end Call

/-! ### Calls that are left out -/

namespace Scene

/-- If the calls that fail are left out, every other call is answered as before. -/
theorem answers_succeeding (hs : s.Sound) (ht : t.Sound) (h : s.Alike t) (calls : List Call) :
  answers (succeeding calls s) t = (answers calls s).filter fun answer => !answer.fails
  := by
  induction calls generalizing s t with
  | nil => rfl
  | cons c calls ih =>
      rw [succeeding, answers]
      by_cases hfails : (c.answer s).fails = true
      · have hkept : (c.run s).Alike t := (c.alike_of_fails hs hfails).symm.trans h
        rw [if_pos hfails, List.filter_cons_of_neg (by simp [hfails])]
        exact ih (c.run_sound hs) ht hkept
      · obtain ⟨hanswer, hleft⟩ := c.indifferent hs ht h
        rw [if_neg hfails, List.filter_cons_of_pos (by simpa using hfails), answers, ← hanswer]
        exact congrArg _ (ih (c.run_sound hs) (c.run_sound ht) hleft)

/-- Wherever a client is, whatever fails leaves no trace. An operation that fails has counted its
error, for the directory that it is on, if the error is a report of the store, and has done nothing
else; no handler has been called in it. A traversal that fails has counted nothing, and no search
fails. So the calls that fail can be left out of what the client does next, and every other call is
answered as before. -/
theorem failures_leave_no_trace {p : Program β} {disk : Disk} (h : p.Reaches (start disk) s) :
  (∀ (deed : Deed) (err : Error) (s' : Scene), deed.run s = (.error (.error err), s') →
    (∃ counted, s.OnlyErred counted s'
      ∧ counted.isSome = err.storeError?.isSome
      ∧ ∀ d, counted = some d → deed.directory? s.1 = some d)
    ∧ ∀ ref, deed.calls ref s = [])
  ∧ (∀ {α : Type} (t : Reading α) (f : Applier Scene α) (err : Error) (s' : Scene),
    t.apply f s = (.error (.error err), s') → s.OnlyErred none s' ∧ err.storeError? = none)
  ∧ (∀ (record : RecordRef) (f : Searcher Scene SymbolView) (err : Error),
    (Reading.search record f s).1 ≠ .error (.error err))
  ∧ ∀ calls : List Call,
    answers (succeeding calls s) s = (answers calls s).filter fun answer => !answer.fails
  := by
  obtain ⟨hs, -⟩ := h.attached
  refine ⟨?_, ?_, ?_, ?_⟩
  · intro deed err s' hfailed
    exact ⟨Deed.run_onlyErred hs hfailed, Deed.calls_failed hs (congrArg Prod.fst hfailed)⟩
  · intro α t f err s' hfailed
    exact Reading.apply_onlyErred hs hfailed
  · intro record f err
    exact Reading.search_ne_error hs record f
  · exact answers_succeeding hs hs (.refl hs.archive.errorTable)

/-- A record whose name has a zero in it is not discarded in a store that has been opened. -/
theorem failures_leave_no_trace_zero :
  let s := ((Deed.openStore (.ofArchive .closure) "stores" none).run
    (start (.holding "stores" (some StoreContents.zeroDocument)))).2
  let deed : Deed := .onStore 0 (.discardRecord "\x00")
  let calls : List Call := [.deed deed, .deed (.onStore 0 .purge)]
  (∃ err s', deed.run s = (.error (.error err), s') ∧ s.OnlyErred none s')
    ∧ answers (succeeding calls s) s = (answers calls s).filter fun answer => !answer.fails
  := by
  intro s deed calls
  have hopen := Deed.run_openStore
    (s := start (.holding "stores" (some StoreContents.zeroDocument))) (l := .ofArchive .closure)
    Text.terminated?_stores Disk.readStore_zeroDocument
  have hreaches : (Program.deed (.openStore (.ofArchive .closure) "stores" none)).Reaches
      (start (.holding "stores" (some StoreContents.zeroDocument))) s :=
    .perform (.here _ _)
  obtain ⟨hdeeds, -, -, hcalls⟩ := failures_leave_no_trace hreaches
  have hheld : ∃ e, s.1.store? 0 = some e := by
    simp only [s, hopen]
    exact ⟨_, rfl⟩
  obtain ⟨e, he⟩ := hheld
  have hzero : (Access.terminated "\x00" : Access Archive Octets)
      = .fail (.badArgument (.interiorZero (Text.quoted "\x00"))) := by
    rw [Access.terminated_eq, if_pos (by decide)]
  obtain ⟨s', hfailed⟩ : ∃ s', deed.run s
      = (.error (.error (.badArgument (.interiorZero (Text.quoted "\x00")))), s') := by
    rw [Deed.run_onStore he, StoreDeed.act, Store.discardRecord, hzero]
    exact ⟨_, rfl⟩
  obtain ⟨⟨counted, hleft, hcounted, -⟩, -⟩ := hdeeds _ _ _ hfailed
  obtain rfl : counted = none := by simpa [Error.storeError?] using hcounted
  exact ⟨⟨_, s', hfailed, hleft⟩, hcalls calls⟩

end Scene

end SymbolIndex
