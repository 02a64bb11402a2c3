import SymbolIndex.Proofs.Accounts.Accesses

/-!
# Accesses that answer

How an access ends can be said of what is known of the state, if this stays known. So it can be
used again, as often as one likes. What a store reports is told as it is, and a reader that is
opened for one access is closed again.
-/

namespace SymbolIndex

open Text (Octets)

variable {σ α β : Type}

/-! ### Accesses that answer -/

/-- The access ends as it is said, and what is known of the state stays known. -/
def Access.Answers (P : σ → Prop) (m : Access σ α) (answer : Except Halt α) : Prop :=
  ∀ s, P s → (m s).1 = answer ∧ P (m s).2

/-- The answer to a request with a text. If there is a zero in the text, it is shown in the
refusal. -/
def Text.checked (text shown : String) (answer : Except Halt α) : Except Halt α :=
  if '\x00' ∈ text.toList then .error (.error (.badArgument (.interiorZero shown))) else answer

theorem Text.map_checked (text shown : String) (answer : Except Halt α) (f : α → β) :
  (checked text shown answer).map f = checked text shown (answer.map f)
  := by
  rw [checked, checked]
  split <;> rfl

theorem Text.map_checked_map {γ : Type} (text shown : String) (answer : Except Halt α) (f : α → β)
    (g : β → γ) :
  (checked text shown (answer.map f)).map g = checked text shown (answer.map fun a => g (f a))
  := by
  rw [map_checked]
  cases answer <;> rfl

/-- The answer to a request that the store cannot fulfil. -/
def StoreError.answer (operation description : String) : Except Halt α :=
  .error (.error (.store ⟨operation, description⟩))

namespace Access

variable {P : σ → Prop}

theorem answers_pure (a : α) :
  (Access.pure a : Access σ α).Answers P (.ok a)
  := fun _ hs => ⟨rfl, hs⟩

theorem Answers.bind {m : Access σ α} {f : α → Access σ β} {answer : Except Halt α}
    {g : α → Except Halt β} (hm : m.Answers P answer) (hf : ∀ a, (f a).Answers P (g a)) :
  (m >>= f).Answers P (answer >>= g)
  := by
  intro s hs
  obtain ⟨hanswer, hkept⟩ := hm s hs
  simp only [Bind.bind, Access.bind]
  rcases hresult : m s with ⟨h | a, s'⟩
  all_goals
    rw [hresult] at hanswer hkept
    subst hanswer
  · exact ⟨rfl, hkept⟩
  · exact hf a s' hkept

/-- What follows a value that is known. -/
theorem Answers.bind_ok {m : Access σ α} {f : α → Access σ β} {a : α} {answer : Except Halt β}
    (hm : m.Answers P (.ok a)) (hf : (f a).Answers P answer) :
  (m >>= f).Answers P answer
  := by
  intro s hs
  obtain ⟨hanswer, hkept⟩ := hm s hs
  simp only [Bind.bind, Access.bind]
  rcases hresult : m s with ⟨h | a', s'⟩
  all_goals rw [hresult] at hanswer hkept
  · cases hanswer
  · obtain rfl := Except.ok.inj hanswer
    exact hf s' hkept

/-- An access that ends with a value in every state. -/
theorem answers_of_eq {m : Access σ α} {answer : Except Halt α}
    (h : ∀ s, P s → m s = (answer, s)) :
  m.Answers P answer
  := by
  intro s hs
  rw [h s hs]
  exact ⟨rfl, hs⟩

theorem answers_attempt {m : Access σ α} {answer : Except Halt α} (hm : m.Answers P answer) :
  m.attempt.Answers P (.ok answer)
  := by
  intro s hs
  obtain ⟨hanswer, hkept⟩ := hm s hs
  exact ⟨congrArg Except.ok hanswer, hkept⟩

theorem terminated_eq (text : String) :
  (Access.terminated text : Access σ Octets)
    = if '\x00' ∈ text.toList then .fail (.badArgument (.interiorZero (Text.quoted text)))
      else .pure (Text.octets text)
  := by
  by_cases hzero : '\x00' ∈ text.toList
  · rw [if_pos hzero, terminated, Text.terminated?_eq_none.mpr hzero]
  · rw [if_neg hzero, terminated, Text.terminated?_eq_some.mpr ⟨hzero, rfl⟩]

theorem terminatedPath_eq (path : String) :
  (Access.terminatedPath path : Access σ Octets)
    = if '\x00' ∈ path.toList then .fail (.badArgument (.interiorZero path))
      else .pure (Text.octets path)
  := by
  by_cases hzero : '\x00' ∈ path.toList
  · rw [if_pos hzero, terminatedPath, Text.terminated?_eq_none.mpr hzero]
  · rw [if_neg hzero, terminatedPath, Text.terminated?_eq_some.mpr ⟨hzero, rfl⟩]

theorem answers_terminated {f : Octets → Access σ α} {answer : Except Halt α} (text : String)
    (hf : '\x00' ∉ text.toList → (f (Text.octets text)).Answers P answer) :
  (Access.terminated text >>= f).Answers P (Text.checked text (Text.quoted text) answer)
  := by
  rw [terminated_eq, Text.checked]
  split
  case isTrue => exact fun _ hs => ⟨rfl, hs⟩
  case isFalse hzero => exact hf hzero

theorem answers_filterM {keep : α → Access σ Bool} {p : α → Bool}
    (h : ∀ a, (keep a).Answers P (.ok (p a))) (items : List α) :
  (items.filterM keep).Answers P (.ok (items.filter p))
  := by
  have haux : ∀ kept : List α,
      (items.filterAuxM keep kept).Answers P (.ok ((items.filter p).reverse ++ kept)) := by
    induction items with
    | nil => exact fun kept => answers_pure kept
    | cons a items ih =>
        intro kept
        have hlist : ((a :: items).filter p).reverse ++ kept
            = (items.filter p).reverse ++ bif p a then a :: kept else kept := by
          cases hp : p a <;> simp [hp]
        rw [List.filterAuxM, hlist]
        exact (h a).bind fun b => ih (bif b then a :: kept else kept)
  have hall := (haux []).bind fun kept => answers_pure (P := P) kept.reverse
  rw [List.append_nil] at hall
  rw [List.filterM, ← List.reverse_reverse (items.filter p)]
  exact hall

/-- Accesses that are made one after the other answer one after the other. -/
theorem answers_mapM {f : α → Access σ β} {answer : α → Except Halt β} {items : List α}
    (h : ∀ a ∈ items, (f a).Answers P (answer a)) :
  (items.mapM f).Answers P (items.mapM answer)
  := by
  have hloop : ∀ made : List β,
      (List.mapM.loop f items made).Answers P (List.mapM.loop answer items made) := by
    induction items with
    | nil => exact fun made => answers_pure made.reverse
    | cons a items ih =>
        intro made
        obtain ⟨hfirst, hrest⟩ := List.forall_mem_cons.mp h
        exact hfirst.bind fun b => ih hrest (b :: made)
  exact hloop []

/-- None of the accesses fails. -/
theorem answers_mapM_ok {f : α → Access σ β} {g : α → β} {items : List α}
    (h : ∀ a ∈ items, (f a).Answers P (.ok (g a))) :
  (items.mapM f).Answers P (.ok (items.map g))
  := by
  have hall : items.mapM (fun a => (.ok (g a) : Except Halt β)) = .ok (items.map g) :=
    List.mapM_pure
  rw [← hall]
  exact answers_mapM h

/-- The access opens a reader that shows something, or is refused. -/
def Opening {ρ : Type} (P : σ → Prop) (m : Access σ ρ) (answer : Except Halt α)
    (Shows : ρ → α → σ → Prop) : Prop :=
  ∀ s, P s → match answer with
    | .error h => (m s).1 = .error h ∧ P (m s).2
    | .ok a => ∃ r s', m s = (.ok r, s') ∧ Shows r a s' ∧ P s'

/-- What is read through a reader that is opened for one access. -/
theorem Opening.answers {ρ : Type} {m : Access σ ρ} {answer : Except Halt α}
    {Shows : ρ → α → σ → Prop} (hm : m.Opening P answer Shows) {use : ρ → Access σ β}
    {close : ρ → σ → σ} {read : α → β}
    (huse : ∀ r a s, Shows r a s → P s → use r s = (.ok (read a), s))
    (hclose : ∀ r a s, Shows r a s → P s → P (close r s)) :
  (m >>= fun r s => match use r s with
      | (result, s) => (result, close r s)).Answers P (answer.map read)
  := by
  intro s hs
  have hopened := hm s hs
  simp only [Bind.bind, Access.bind]
  cases answer with
  | error h =>
      obtain ⟨hanswer, hkept⟩ := hopened
      rcases hresult : m s with ⟨e | r, s'⟩
      all_goals rw [hresult] at hanswer hkept
      · exact ⟨congrArg Except.error (Except.error.inj hanswer), hkept⟩
      · cases hanswer
  | ok a =>
      obtain ⟨r, s', hresult, hshows, hkept⟩ := hopened
      simp only [hresult, huse r a s' hshows hkept]
      exact ⟨rfl, hclose r a s' hshows hkept⟩

theorem opening_terminated {ρ : Type} {f : Octets → Access σ ρ} {answer : Except Halt α}
    {Shows : ρ → α → σ → Prop} (text : String)
    (hf : '\x00' ∉ text.toList → (f (Text.octets text)).Opening P answer Shows) :
  (Access.terminated text >>= f).Opening P (Text.checked text (Text.quoted text) answer) Shows
  := by
  rw [terminated_eq, Text.checked]
  split
  case isTrue => exact fun _ hs => ⟨rfl, hs⟩
  case isFalse hzero => exact hf hzero

end Access

/-! ### Answers one after the other -/

section

variable {answer : α → Except Halt β} {items : List α}

/-- All answers are given, each one for its request. -/
theorem mapM_eq_ok {bs : List β} :
  items.mapM answer = .ok bs ↔ List.Forall₂ (fun a b => answer a = .ok b) items bs
  := by
  induction items generalizing bs with
  | nil =>
      rw [List.mapM_nil, List.forall₂_nil_left_iff]
      exact ⟨fun h => (Except.ok.inj h).symm, fun h => congrArg Except.ok h.symm⟩
  | cons a items ih =>
      rw [List.mapM_cons, List.forall₂_cons_left_iff]
      constructor
      · intro h
        cases ha : answer a with
        | error e =>
            rw [ha] at h
            cases h
        | ok b =>
            cases hitems : items.mapM answer with
            | error e =>
                rw [ha, hitems] at h
                cases h
            | ok bs =>
                rw [ha, hitems] at h
                cases h
                exact ⟨b, bs, rfl, ih.mp hitems, rfl⟩
      · rintro ⟨b, bs, ha, hitems, rfl⟩
        rw [ha, ih.mpr hitems]
        rfl

theorem exists_mapM_ok :
  (∃ bs, items.mapM answer = .ok bs) ↔ ∀ a ∈ items, ∃ b, answer a = .ok b
  := by
  simp only [mapM_eq_ok]
  induction items with
  | nil => simp
  | cons a items ih =>
      rw [List.forall_mem_cons, ← ih]
      constructor
      · rintro ⟨bs, h⟩
        obtain ⟨b, bs, ha, hitems, rfl⟩ := List.forall₂_cons_left_iff.mp h
        exact ⟨⟨b, ha⟩, bs, hitems⟩
      · rintro ⟨⟨b, ha⟩, bs, hitems⟩
        exact ⟨b :: bs, .cons ha hitems⟩

/-- The first error is the answer to all requests. -/
theorem mapM_of_error {before rest : List α} {a : α} {h : Halt}
    (hbefore : ∀ x ∈ before, ∃ b, answer x = .ok b) (ha : answer a = .error h) :
  (before ++ a :: rest).mapM answer = .error h
  := by
  obtain ⟨bs, hbs⟩ := exists_mapM_ok.mpr hbefore
  rw [List.mapM_append, hbs, List.mapM_cons, ha]
  rfl

end

/-! ### Stores that are open -/

variable {ref : StoreRef} {mappings : List (String × String)} {c : StoreContents}
  {a : Archive}

namespace Archive

/-- The store is open with some mappings and contents. References are not handed out twice. -/
structure Presents (ref : StoreRef) (mappings : List (String × String)) (c : StoreContents)
    (a : Archive) : Prop where
  opened : ∃ x, a.stores.get? ref = some x ∧ x.mappings = mappings ∧ x.contents = c
  errors : a.errors.Sound
  records : a.records.Sound
  units : a.units.Sound

end Archive

open Archive (Presents)

/-! ### Refusals -/

namespace Library

variable {l : Library Archive} (honest : l.Honest)

include honest

/-- What has been reported is told as it is, if there is no zero in it. -/
theorem failure_reported (h : a.Presents ref mappings c) (operation : String) (directory : Path)
    {description : String} (hzero : '\x00' ∉ description.toList) :
  let result : Except Halt α × Archive :=
    l.failure operation (some (a.report directory description).1)
      (a.report directory description).2
  result.1 = StoreError.answer operation description ∧ result.2.Presents ref mappings c
  := by
  have hbackend : l.backend = Archive.backend := honest
  let e : ArchiveError := { directory, description }
  have hfound : (a.report directory description).2.errors.get? a.errors.next = some e :=
    h.errors.get?_insert e
  have hblank : (description.map fun x => if x = '\x00' then ' ' else x) = description := by
    apply String.toList_inj.mp
    rw [String.toList_map]
    apply Eq.trans _ (List.map_id description.toList)
    apply List.map_congr_left
    intro x hx
    have hx' : x ≠ '\x00' := fun h => hzero (h ▸ hx)
    rw [if_neg hx', id]
  have htold : Text.readTerminated (some (Archive.ArchiveError.octets e)) = description := by
    rw [Archive.ArchiveError.octets, hblank]
    exact Text.readTerminated_octets hzero
  have hreported : (a.report directory description).1 = .own a.errors.next := rfl
  simp only [failure, takeError, hbackend, Archive.backend, hreported, Archive.describeError,
    Archive.disposeError, hfound, Option.map_some, htold]
  refine ⟨rfl, h.opened, ?_, h.records, h.units⟩
  exact (h.errors.insert e).erase _

/-- An object that is refused is told as it is. -/
theorem created_refused (h : a.Presents ref mappings c) (operation : String) (directory : Path)
    {description : String} (hzero : '\x00' ∉ description.toList) :
  let answer := a.refuse directory description
  (l.created operation answer.1 answer.2).1 = StoreError.answer operation description
    ∧ (l.created operation answer.1 answer.2).2.Presents ref mappings c
  := failure_reported honest h operation directory hzero

/-- What the library has opened or refused, as it is told. -/
theorem opening_created {create : Archive → Created × Archive} {operation : String}
    {answer : Except Halt α} {f : Nat → β} {Shows : β → α → Archive → Prop}
    (h : ∀ a, Presents ref mappings c a →
      (∃ directory description, create a = a.refuse directory description
        ∧ '\x00' ∉ description.toList ∧ answer = StoreError.answer operation description)
      ∨ ∃ x n a', create a = (⟨some n, none⟩, a')
        ∧ answer = .ok x ∧ Shows (f n) x a' ∧ a'.Presents ref mappings c) :
  (Access.step create >>= fun created =>
    l.created operation created >>= fun n => pure (f n)).Opening (Presents ref mappings c) answer
    Shows
  := by
  intro a ha
  simp only [bind, Access.bind, Access.step]
  rcases h a ha with ⟨directory, description, hcreate, hzero, rfl⟩ | ⟨x, n, a', hcreate, rfl, hx⟩
  · rw [hcreate]
    obtain ⟨hanswer, hkept⟩ := created_refused honest ha operation directory hzero
    rcases hresult : l.created operation (a.refuse directory description).1
      (a.refuse directory description).2 with ⟨e | n, a'⟩
    all_goals rw [hresult] at hanswer hkept
    · exact ⟨congrArg Except.error (Except.error.inj hanswer), hkept⟩
    · cases hanswer
  · rw [hcreate]
    exact ⟨f n, a', rfl, hx⟩

end Library

end SymbolIndex
