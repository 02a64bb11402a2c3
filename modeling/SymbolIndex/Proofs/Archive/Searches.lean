import SymbolIndex.Proofs.Archive.Conventions
import SymbolIndex.Proofs.Isolation.OpenStores

/-!
# Searches of records

A search of an open record asks the filter about the symbols of the record, in their order, up to
the first one at which it asks to stop. Each symbol that it accepts is received before it is asked
about the next one.
-/

namespace SymbolIndex

variable {ρ σ α : Type}

/-! ### What a client is asked -/

namespace Client

/-- What a client does with an item: the verdict of its filter, and the state in which it is left
when it has received the item if it has accepted it. -/
def turn (k : Client ρ α) (a : α) (r : ρ) : Verdict × ρ :=
  match k.filter a r with
  | (v, r) => (v, if v.accept then k.receive a r else r)

/-- The state of a client that has been asked about some items. -/
def after (k : Client ρ α) (items : List α) (r : ρ) : ρ :=
  items.foldl (fun r a => (k.turn a r).2) r

/-- Some items and the verdicts on them are those of a search through a list: the client is asked
about the items of the list up to the first one at which it asks to stop. -/
structure IsAsked (k : Client ρ α) (items : List α) (r : ρ) (asked : List (α × Verdict)) :
    Prop where
  inOrder : asked.map Prod.fst <+: items
  /-- A verdict is that of the filter in the state in which the items before have left it. -/
  verdicts : ∀ before a v rest, asked = before ++ (a, v) :: rest →
    v = (k.filter a (k.after (before.map Prod.fst) r)).1
  stops : ∀ before a v rest, asked = before ++ (a, v) :: rest → v.stop = true → rest = []
  goesOn : (∀ p ∈ asked, p.2.stop = false) → asked.map Prod.fst = items

/-- The items about which a client is asked, with its verdicts. -/
def asked (k : Client ρ α) : List α → ρ → List (α × Verdict)
  | [], _ => []
  | a :: as, r =>
    match k.turn a r with
    | (v, r) => (a, v) :: if v.stop then [] else k.asked as r

/-- What is run on the items about which a client is asked. -/
def notes (asked : List (α × Verdict)) : List (SearchNote α) :=
  asked.flatMap fun (a, v) => .filtered a :: if v.accept then [.received a] else []

/-- A client of a library with a note of each run. -/
def recorded (k : Client (ρ × σ) α) : Client ((List (SearchNote α) × ρ) × σ) α where
  filter a := fun ((notes, x), s) =>
    match k.filter a (x, s) with
    | (v, x, s) => (v, (notes ++ [.filtered a], x), s)
  receive a := fun ((notes, x), s) =>
    match k.receive a (x, s) with
    | (x, s) => ((notes ++ [.received a], x), s)

variable (k : Client ρ α)

theorem asked_of_stop {a : α} {r : ρ} (h : (k.turn a r).1.stop = true) (items : List α) :
  k.asked (a :: items) r = [(a, (k.turn a r).1)]
  := by
  simp only [asked, h, ↓reduceIte]

theorem asked_of_goesOn {a : α} {r : ρ} (h : (k.turn a r).1.stop = false) (items : List α) :
  k.asked (a :: items) r = (a, (k.turn a r).1) :: k.asked items (k.turn a r).2
  := by
  simp only [asked, h, Bool.false_eq_true, ↓reduceIte]

theorem through_cons (a : α) (items : List α) (r : ρ) :
  k.through (a :: items) r
    = if (k.turn a r).1.stop then (true, (k.turn a r).2) else k.through items (k.turn a r).2
  := rfl

theorem asked_split {items : List α} {r : ρ} {before rest : List (α × Verdict)} {a : α}
    {v : Verdict} (h : k.asked items r = before ++ (a, v) :: rest) :
  v = (k.filter a (k.after (before.map Prod.fst) r)).1 ∧ (v.stop = true → rest = [])
  := by
  induction items generalizing r before with
  | nil => cases before <;> cases h
  | cons b items ih =>
      cases hstop : (k.turn b r).1.stop with
      | true =>
          rw [k.asked_of_stop hstop] at h
          cases before with
          | nil =>
              obtain ⟨hlast, rfl⟩ := List.cons.inj h
              obtain ⟨rfl, rfl⟩ := Prod.mk.inj hlast
              exact ⟨rfl, fun _ => rfl⟩
          | cons p before => cases before <;> cases h
      | false =>
          rw [k.asked_of_goesOn hstop] at h
          cases before with
          | nil =>
              obtain ⟨hfirst, -⟩ := List.cons.inj h
              obtain ⟨rfl, rfl⟩ := Prod.mk.inj hfirst
              refine ⟨rfl, fun hstop' => ?_⟩
              rw [hstop] at hstop'
              cases hstop'
          | cons p before =>
              obtain ⟨rfl, hrest⟩ := List.cons.inj h
              exact (ih hrest :)

theorem asked_prefix (items : List α) (r : ρ) :
  (k.asked items r).map Prod.fst <+: items
  := by
  induction items generalizing r with
  | nil => exact List.prefix_rfl
  | cons a items ih =>
      cases hstop : (k.turn a r).1.stop with
      | true =>
          rw [k.asked_of_stop hstop]
          exact List.cons_prefix_cons.mpr ⟨rfl, List.nil_prefix⟩
      | false =>
          rw [k.asked_of_goesOn hstop]
          exact List.cons_prefix_cons.mpr ⟨rfl, ih _⟩

theorem asked_all {items : List α} {r : ρ} (h : ∀ p ∈ k.asked items r, p.2.stop = false) :
  (k.asked items r).map Prod.fst = items
  := by
  induction items generalizing r with
  | nil => rfl
  | cons a items ih =>
      cases hstop : (k.turn a r).1.stop with
      | true =>
          rw [k.asked_of_stop hstop] at h
          cases hstop.symm.trans (h _ List.mem_cons_self)
      | false =>
          rw [k.asked_of_goesOn hstop] at h ⊢
          rw [List.map_cons, ih fun p hp => h p (List.mem_cons_of_mem _ hp)]

theorem isAsked_asked (items : List α) (r : ρ) :
  k.IsAsked items r (k.asked items r)
  where
  inOrder := k.asked_prefix items r
  verdicts _ _ _ _ h := (k.asked_split h).1
  stops _ _ _ _ h := (k.asked_split h).2
  goesOn := k.asked_all

theorem turn_recorded (k : Client (ρ × σ) α) (a : α) (notes : List (SearchNote α)) (x : ρ) (s : σ) :
  let t := k.turn a (x, s)
  k.recorded.turn a ((notes, x), s) = (t.1, (notes ++ Client.notes [(a, t.1)], t.2.1), t.2.2)
  := by
  rcases hfilter : k.filter a (x, s) with ⟨⟨accept, stop⟩, x', s'⟩
  cases accept <;> simp [turn, recorded, Client.notes, hfilter]

/-- A client is taken through a list as far as it is asked. That notes are made changes nothing of
what it does. -/
theorem through_recorded (k : Client (ρ × σ) α) (items : List α) (notes : List (SearchNote α))
    (x : ρ) (s : σ) :
  let asked := k.asked items (x, s)
  let r := k.after (asked.map Prod.fst) (x, s)
  k.recorded.through items ((notes, x), s)
    = (asked.any fun p => p.2.stop, (notes ++ Client.notes asked, r.1), r.2)
  := by
  induction items generalizing notes x s with
  | nil => simp [through, asked, Client.notes, after]
  | cons a items ih =>
      simp only [through_cons, turn_recorded]
      cases hstop : (k.turn a (x, s)).1.stop with
      | true => simp [k.asked_of_stop hstop, hstop, after]
      | false => simp [k.asked_of_goesOn hstop, hstop, ih, after, Client.notes]

end Client

/-! ### Searches -/

/-- Through a library of either convention, a client that never panics is asked about the symbols
of an open record in their order, up to the first one at which it asks to stop. Each symbol that it
accepts, and no other one, is received between the question about it and the next one. The search
is reported as stopped if the client has asked to stop, and as completed if it has not. -/
theorem RecordReader.search_openIn {r : RecordReader Archive} {entry : RecordEntry} {s : Scene}
    (h : r.OpenIn entry s) (l : Library Archive) (k : Client (ρ × Archive) SymbolView) (x : ρ) :
  let asked := k.asked (entry.symbolViews r.ref) (x, s.2)
  let left := k.after (asked.map Prod.fst) (x, s.2)
  k.IsAsked (entry.symbolViews r.ref) (x, s.2) asked
    ∧ ∀ c, (r.through (l.withArchive c)).search k.recorded.searcher (([], x), s.2)
      = (.ok (if asked.any fun p => p.2.stop then .stopped else .completed),
          (Client.notes asked, left.1), left.2)
  := by
  obtain ⟨-, hhas⟩ := h.hasRecord
  refine ⟨k.isAsked_asked (entry.symbolViews r.ref) (x, s.2), fun c => ?_⟩
  rw [r.search_withArchive, hhas.symbolsOf_eq, Client.through_recorded, List.nil_append]

/-- A client that counts its questions rejects the first symbol, accepts the other ones and asks to
stop at the last one, which it receives all the same. -/
theorem RecordReader.search_openIn_last :
  let entry : RecordEntry := { name := "r", symbols := [{ name := "a" }, {}, { name := "a" }] }
  let k : Client (Nat × Archive) SymbolView :=
    { filter := fun _ (n, a) => (⟨n != 0, n == 2⟩, (n + 1, a)), receive := fun _ x => x }
  ∃ (r : RecordReader Archive) (s : Scene), r.OpenIn entry s ∧ ∃ u v w,
    entry.symbolViews r.ref = [u, v, w]
      ∧ ∀ (l : Library Archive) c,
        (r.through (l.withArchive c)).search k.recorded.searcher (([], 0), s.2)
          = (.ok .stopped,
              ([.filtered u, .filtered v, .received v, .filtered w, .received w], 3), s.2)
  := by
  intro entry k
  have hzero : '\x00' ∉ entry.name.toList := by decide
  obtain ⟨r, s, h⟩ := exists_openIn hzero rfl
  exact ⟨r, s, h, _, _, _, rfl, fun l c => (search_openIn h l k 0).2 c⟩

end SymbolIndex
