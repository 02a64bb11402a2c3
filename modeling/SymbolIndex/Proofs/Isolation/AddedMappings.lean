import SymbolIndex.Proofs.Isolation.Mappings

/-!
# Mappings that are added to options

A client adds mappings to options, and some of them are refused. Those that are not refused are in
the options, in the order in which they have been added.
-/

namespace SymbolIndex

variable {s : Scene} {options : OptionsRef} {o : Options Archive}

/-! ### Mappings that are not refused -/

/-- The mapping that a call adds to options. A text with a zero in it is refused. -/
def Call.adds? (options : OptionsRef) : Call → Option (String × String)
  | .deed (.addMapping ref source target) =>
    if ref = options ∧ '\x00' ∉ source.toList ∧ '\x00' ∉ target.toList then some (source, target)
    else none
  | _ => none

theorem Call.adds?_of_keeps {c : Call} (h : c.changesOptions = false) :
  c.adds? options = none
  := by
  cases c with
  | handOut _ | search _ => rfl
  | deed deed =>
      cases deed with
      | addMapping _ _ _ => cases h
      | _ => rfl

/-- A mapping is refused for the first of its texts in which there is a zero. -/
theorem Options.add_answer (o : Options Archive) (source target : String) (a : Archive) :
  ((o.add source target a).1.map fun _ => ())
    = Text.checked source (Text.quoted source)
        (Text.checked target (Text.quoted target) (.ok ()))
  := by
  rw [add, Access.terminated_eq, Access.terminated_eq, Text.checked, Text.checked]
  split
  case isTrue => rfl
  case isFalse => split <;> rfl

theorem Deed.addMapping_answer (ho : s.1.option? options = some o) (source target : String) :
  ((Deed.addMapping options source target).run s).1
    = Text.checked source (Text.quoted source)
        (Text.checked target (Text.quoted target) (.ok ()))
  := by
  rw [← o.add_answer source target s.2]
  simp only [run, ho, Scene.use]
  rcases o.add source target s.2 with ⟨_ | _, _⟩ <;> rfl

/-! ### Options that are held -/

namespace Holdings

variable (h : Holdings)

theorem option?_replaced (o : Options Archive) (ref : OptionsRef) :
  option? { h with options := h.options.map fun o' => if o'.ref = o.ref then o else o' } ref
    = if ref = o.ref then (h.option? ref).map fun _ => o else h.option? ref
  := find?_replaced (fun o : Options Archive => o.ref) h.options o ref

theorem option?_without (options ref : OptionsRef) :
  option? { h with options := h.options.filter fun o => o.ref != options } ref
    = if ref = options then none else h.option? ref
  := find?_without (fun o : Options Archive => o.ref) h.options options ref

variable {h}

theorem mappings_of_option? (ho : h.option? options = some o) :
  h.mappings (some options) = o.mappings
  := by
  rw [mappings, Option.bind_some, ho]
  rfl

end Holdings

namespace Call

variable {c : Call}

/-- A call that adds nothing to options leaves them as they are, if they are still held. -/
theorem option?_of_same (ho : s.1.option? options = some o) (hadds : c.adds? options = none)
    (hsame : (c.run s).1.option? options = s.1.option? options) :
  (c.run s).1.option? options
    = some { o with mappings := o.mappings ++ (c.adds? options).toList }
  := by
  rw [hsame, ho, hadds, Option.toList_none, List.append_nil]

theorem option?_addMapping (hs : s.Sound) (ho : s.1.option? options = some o) (ref : OptionsRef)
    (source target : String) :
  let c : Call := .deed (.addMapping ref source target)
  (c.run s).1.option? options
    = some { o with mappings := o.mappings ++ (c.adds? options).toList }
  := by
  intro c
  cases hfound : s.1.option? ref with
  | none =>
      have hother : ref ≠ options := by
        rintro rfl
        cases hfound.symm.trans ho
      have hrun : c.run s = s := by simp only [c, run, Deed.run, hfound]
      exact option?_of_same ho (if_neg fun h => hother h.1) (by rw [hrun])
  | some o' =>
      obtain rfl := Holdings.ref_of_option? hfound
      by_cases hzero : '\x00' ∉ source.toList ∧ '\x00' ∉ target.toList
      · have honest := hs.honest.option hfound
        have hadd := Options.add_eq honest hzero.1 hzero.2 s.2
        have hrun := s.1.option?_replaced
          { o' with mappings := o'.mappings ++ [(source, target)] } options
        have hheld : (c.run s).1.option? options
            = if options = o'.ref
                then some { o' with mappings := o'.mappings ++ [(source, target)] }
                else some o := by
          simp only [c, run, Deed.run, hfound, Scene.use, hadd]
          rw [hrun, ho]
          rfl
        by_cases hsame : o'.ref = options
        · subst hsame
          obtain rfl := Option.some.inj (hfound.symm.trans ho)
          have hadds : c.adds? o'.ref = some (source, target) := if_pos ⟨rfl, hzero⟩
          rw [hheld, if_pos rfl, hadds, Option.toList_some]
        · rw [if_neg (Ne.symm hsame), ← ho] at hheld
          exact option?_of_same ho (if_neg fun h => hsame h.1) hheld
      · obtain ⟨halt, hadd⟩ := o'.add_of_refused hzero s.2
        have hrun : c.run s = s := by simp only [c, run, Deed.run, hfound, Scene.use, hadd]
        exact option?_of_same ho (if_neg fun h => hzero h.2) (by rw [hrun])

/-- Options are held with what is added to them until they are disposed of. -/
theorem option?_run (hs : s.Sound) (ho : s.1.option? options = some o)
    (hkept : c ≠ .deed (.disposeOptions options)) :
  (c.run s).1.option? options
    = some { o with mappings := o.mappings ++ (c.adds? options).toList }
  := by
  cases hoptions : c.changesOptions with
  | false =>
      apply option?_of_same ho (adds?_of_keeps hoptions)
      rw [Holdings.option?, c.options_run hoptions s]
      rfl
  | true =>
      cases c with
      | handOut _ | search _ => cases hoptions
      | deed deed =>
          cases deed with
          | createOptions l =>
              apply option?_of_same ho rfl
              have hfound : s.1.options.find? (fun o => o.ref == options) = some o := ho
              refine List.find?_append.trans ?_
              rw [Holdings.option?, hfound, Option.some_or]
          | addMapping ref source target => exact option?_addMapping hs ho ref source target
          | disposeOptions ref =>
              have hother : options ≠ ref := by
                rintro rfl
                exact hkept rfl
              apply option?_of_same ho rfl
              simp only [run, Deed.run]
              split
              case h_1 => rfl
              case h_2 => exact (s.1.option?_without ref options).trans (if_neg hother)
          | _ => cases hoptions

theorem option?_called (hs : s.Sound) (ho : s.1.option? options = some o) {calls : List Call}
    (hkept : .deed (.disposeOptions options) ∉ calls) :
  (s.called calls).1.option? options
    = some { o with mappings := o.mappings ++ calls.filterMap (adds? options) }
  := by
  induction calls generalizing s o with
  | nil =>
      rw [List.filterMap_nil, List.append_nil]
      exact ho
  | cons c calls ih =>
      rw [List.mem_cons, not_or] at hkept
      have hrun := option?_run hs ho (Ne.symm hkept.1)
      refine (ih (c.run_sound hs) hrun hkept.2).trans ?_
      rw [List.append_assoc, List.filterMap_cons]
      cases c.adds? options <;> rfl

end Call

/-- The library has what the client has. -/
theorem Scene.Mapped.get?_of_option? (h : s.Mapped) (ho : s.1.option? options = some o) :
  s.2.options.get? options = some o.mappings
  := by
  obtain rfl := Holdings.ref_of_option? ho
  exact h.same o (List.mem_of_find?_eq_some ho)

/-- Options that are created are held under a new reference, without mappings. -/
theorem Scene.Mapped.option?_created (h : s.Mapped) (l : Library Archive) :
  ((Call.deed (.createOptions l)).run s).1.option? s.2.options.next
    = some { library := l.withArchive l.convention, ref := s.2.options.next }
  := by
  have hnew : s.1.options.find? (fun o => o.ref == s.2.options.next) = none := by
    rw [List.find?_eq_none]
    intro o ho
    have hlt := h.table.fresh _ (Table.get?_mem (h.same o ho))
    simpa using Nat.ne_of_lt hlt
  refine List.find?_append.trans ?_
  rw [hnew, Option.none_or, List.find?_singleton]
  exact if_pos (beq_self_eq_true _)

namespace Scene

/-- The calls that add mappings to options. -/
def adding (options : OptionsRef) (mappings : List (String × String)) : List Call :=
  mappings.map fun m => .deed (.addMapping options m.1 m.2)

variable {mappings : List (String × String)}

/-- Options have all mappings that are added, if there are no zeros in them. -/
theorem option?_adding (hs : s.Sound) (ho : s.1.option? options = some o)
    (hzero : ∀ m ∈ mappings, '\x00' ∉ m.1.toList ∧ '\x00' ∉ m.2.toList) :
  (s.called (adding options mappings)).1.option? options
    = some { o with mappings := o.mappings ++ mappings }
  := by
  have hadds : (adding options mappings).filterMap (Call.adds? options) = mappings := by
    rw [adding, List.filterMap_map]
    refine (List.filterMap_congr fun m hm => ?_).trans List.filterMap_some
    exact if_pos ⟨rfl, hzero m hm⟩
  have hkept : .deed (.disposeOptions options) ∉ adding options mappings := by simp [adding]
  rw [Call.option?_called hs ho hkept, hadds]

/-- To add mappings makes no difference on the disk. -/
theorem disk_adding (hs : s.Sound) (options : OptionsRef) (mappings : List (String × String)) :
  (s.called (adding options mappings)).2.disk = s.2.disk
  := by
  induction mappings generalizing s with
  | nil => rfl
  | cons m mappings ih =>
      have haside : Aside s ((Deed.addMapping options m.1 m.2).run s).2 :=
        Deed.run_aside trivial (by simp) hs
      exact (ih (Call.run_sound hs _)).trans haside.archive.disk

end Scene

end SymbolIndex
