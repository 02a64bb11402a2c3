import SymbolIndex.Path

/-!
# Texts of paths

The steps of a text are what stands between its slashes. A path of such parts is read back from its
text.
-/

namespace SymbolIndex

namespace Path

variable {c text : String} {path : Path}

/-- What can stand between slashes. -/
structure IsPart (c : String) : Prop where
  written : c ≠ ""
  slash : '/' ∉ c.toList

/-- What stands between separators has none in it. -/
theorem notMem_of_mem_splitOn {sep : Char} {cs ds : List Char} (h : ds ∈ cs.splitOn sep) :
  sep ∉ ds
  := by
  induction cs generalizing ds with
  | nil =>
      rw [List.splitOn_nil, List.mem_singleton] at h
      simp [h]
  | cons c cs ih =>
      rw [List.splitOn_cons_eq_if_modifyHead] at h
      split at h
      case isTrue =>
          rcases List.mem_cons.mp h with rfl | h
          · exact List.not_mem_nil
          · exact ih h
      case isFalse hc =>
          -- The character belongs to the first of the pieces behind it.
          cases hpieces : cs.splitOn sep with
          | nil => exact absurd hpieces (List.splitOn_ne_nil _ _)
          | cons first rest =>
              rw [hpieces] at h ih
              rcases List.mem_cons.mp h with rfl | h
              · have hfirst := ih List.mem_cons_self
                simp only [beq_iff_eq] at hc
                simp [hfirst, Ne.symm hc]
              · exact ih (List.mem_cons_of_mem _ h)

theorem isPart_of_mem_parts (h : c ∈ parts text) :
  IsPart c
  := by
  obtain ⟨hmem, hwritten⟩ := List.mem_filter.mp h
  obtain ⟨ds, hds, rfl⟩ := List.mem_map.mp hmem
  refine ⟨by simpa using hwritten, ?_⟩
  rw [String.toList_ofList]
  exact notMem_of_mem_splitOn hds

theorem isPart_of_mem_steps (h : c ∈ steps text) :
  IsPart c
  := by
  rw [steps] at h
  split at h
  · rcases List.mem_append.mp h with h | h
    · exact isPart_of_mem_parts h
    · rw [List.mem_singleton.mp h]
      exact ⟨by decide, by decide⟩
  · exact isPart_of_mem_parts h

section

variable (hpath : path ≠ []) (hparts : ∀ c ∈ path, IsPart c)

include hpath hparts

/-- The text of a path begins with a slash, and its parts stand behind the slashes. -/
theorem splitOn_text :
  path.text.toList.splitOn '/' = [] :: path.map String.toList
  := by
  have htext : path.text.toList = [] ++ '/' :: ['/'].intercalate (path.map String.toList) := by
    simp [text]
  have hslash : ∀ cs ∈ path.map String.toList, '/' ∉ cs := by
    intro cs hcs
    obtain ⟨c, hc, rfl⟩ := List.mem_map.mp hcs
    exact (hparts c hc).slash
  rw [htext, List.splitOn_append_cons_self, List.splitOn_nil,
    List.splitOn_intercalate _ hslash (by simpa using hpath), List.singleton_append]

theorem parts_text :
  parts path.text = path
  := by
  have hwritten : path.filter (· != "") = path := by
    rw [List.filter_eq_self]
    intro c hc
    simpa using (hparts c hc).written
  rw [parts, splitOn_text hpath hparts]
  simpa using hwritten

/-- The steps of the text of a path are the path. -/
theorem steps_text :
  steps path.text = path
  := by
  have hend : ¬ path.text.endsWith "/" = true := by
    rw [← String.endsWith_toSlice, String.Slice.endsWith_string_iff, String.copy_toSlice]
    rintro ⟨front, hfront⟩
    -- A text with a slash at its end has nothing behind the last slash.
    have hsplit : path.text.toList.splitOn '/' = front.splitOn '/' ++ [[]] := by
      rw [← hfront]
      exact List.splitOn_append_cons_self front []
    obtain ⟨around, last, rfl⟩ : ∃ around last, path = around ++ [last] :=
      ⟨_, _, (List.dropLast_concat_getLast hpath).symm⟩
    rw [splitOn_text hpath hparts, List.map_append, ← List.cons_append] at hsplit
    have hlast : [last.toList] = [[]] := (List.append_inj' hsplit rfl).2
    have hempty : last.toList = [] := (List.cons.inj hlast).1
    exact (hparts last (by simp)).written (String.toList_eq_nil_iff.mp hempty)
  rw [steps, if_neg hend, parts_text hpath hparts]

end

end Path

end SymbolIndex
