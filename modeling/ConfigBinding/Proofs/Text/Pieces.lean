import ConfigBinding.Text.Blank
import ConfigBinding.Text.Pieces

/-!
# Laws of pieces

Cutting a text and joining its pieces are inverse to each other (`join_pieces`, `pieces_join`), so
the pieces of a text are the only texts without the separator that it joins (`pieces_eq_iff`). There
is one more of them than there are separators (`length_pieces`). Lines that are each written with an
end are cut at these ends (`pieces_lines`).
-/

set_option autoImplicit false

namespace ConfigBinding.Text

theorem not_mem_of_mem_splitOn {c : Char} {cs piece : List Char} (h : piece ∈ cs.splitOn c) :
    c ∉ piece := by
  induction cs generalizing piece with
  | nil => simp_all
  | cons d cs ih =>
    rw [List.splitOn_cons_eq_if_modifyHead] at h
    split at h
    · rcases List.mem_cons.mp h with rfl | h
      · exact List.not_mem_nil
      · exact ih h
    · rename_i hd
      obtain ⟨first, rest, hsplit⟩ := List.exists_cons_of_ne_nil (List.splitOn_ne_nil c cs)
      rw [hsplit, List.modifyHead_cons] at h
      rw [hsplit] at ih
      rcases List.mem_cons.mp h with rfl | h
      · have hne : c ≠ d := by
          rintro rfl
          exact hd (beq_self_eq_true c)
        exact List.not_mem_cons_of_ne_of_not_mem hne (ih List.mem_cons_self)
      · exact ih (List.mem_cons_of_mem _ h)

theorem subset_of_mem_splitOn {c : Char} {cs piece : List Char} (h : piece ∈ cs.splitOn c) :
    piece ⊆ cs := by
  induction cs generalizing piece with
  | nil =>
    obtain rfl := List.mem_singleton.mp h
    exact List.Subset.refl _
  | cons d cs ih =>
    rw [List.splitOn_cons_eq_if_modifyHead] at h
    split at h
    · rcases List.mem_cons.mp h with rfl | h
      · exact List.nil_subset _
      · exact List.subset_cons_of_subset d (ih h)
    · obtain ⟨first, rest, hsplit⟩ := List.exists_cons_of_ne_nil (List.splitOn_ne_nil c cs)
      rw [hsplit, List.modifyHead_cons] at h
      rw [hsplit] at ih
      rcases List.mem_cons.mp h with rfl | h
      · exact List.cons_subset_cons d (ih List.mem_cons_self)
      · exact List.subset_cons_of_subset d (ih (List.mem_cons_of_mem _ h))

section
variable {c : Char} {s p : String}

theorem pieces_ne_nil (c : Char) (s : String) : pieces c s ≠ [] := by
  simp [pieces]

theorem toList_pieces (c : Char) (s : String) :
    (pieces c s).map String.toList = s.toList.splitOn c := by
  simp [pieces, Function.comp_def]

/-- The separator does not occur in a piece. -/
theorem not_mem_of_mem_pieces (h : p ∈ pieces c s) : c ∉ p.toList := by
  have hsplit : p.toList ∈ s.toList.splitOn c := by
    rw [← toList_pieces]
    exact List.mem_map_of_mem h
  exact not_mem_of_mem_splitOn hsplit

/-- A piece has no characters that the text has not. -/
theorem mem_of_mem_pieces {d : Char} (h : p ∈ pieces c s) (hd : d ∈ p.toList) : d ∈ s.toList := by
  have hsplit : p.toList ∈ s.toList.splitOn c := by
    rw [← toList_pieces]
    exact List.mem_map_of_mem h
  exact subset_of_mem_splitOn hsplit hd

theorem pieces_of_not_mem (h : c ∉ s.toList) : pieces c s = [s] := by
  simp [pieces, List.splitOn_eq_singleton h]

variable {sep : String} (hsep : sep.toList = [c])
include hsep

theorem join_pieces (s : String) : join sep (pieces c s) = s := by
  apply String.toList_injective
  rw [join, String.toList_intercalate, hsep, toList_pieces, List.intercalate_splitOn]

/-- Joined texts are cut where they were joined, if there is one and the separator is in none. -/
theorem pieces_join {ps : List String} (hne : ps ≠ []) (h : ∀ p ∈ ps, c ∉ p.toList) :
    pieces c (join sep ps) = ps := by
  have hsplit :
      (sep.toList.intercalate (ps.map String.toList)).splitOn c = ps.map String.toList := by
    rw [hsep]
    exact List.splitOn_intercalate c (by simpa using h) (by simpa using hne)
  rw [pieces, join, String.toList_intercalate, hsplit, List.map_map]
  simp [Function.comp_def]

theorem pieces_eq_iff {ps : List String} :
    pieces c s = ps ↔ ps ≠ [] ∧ (∀ p ∈ ps, c ∉ p.toList) ∧ s = join sep ps := by
  refine ⟨fun h => ?_, fun ⟨hne, hps, hs⟩ => ?_⟩
  · subst h
    exact ⟨pieces_ne_nil c s, fun p => not_mem_of_mem_pieces, (join_pieces hsep s).symm⟩
  · rw [hs]
    exact pieces_join hsep hne hps

end

theorem length_splitOn (c : Char) (cs : List Char) : (cs.splitOn c).length = cs.count c + 1 := by
  induction cs with
  | nil => rfl
  | cons d cs ih =>
    rw [List.splitOn_cons_eq_if_modifyHead, List.count_cons]
    split <;> simp [ih]

theorem length_pieces (c : Char) (s : String) : (pieces c s).length = s.toList.count c + 1 := by
  rw [pieces, List.length_map, length_splitOn]

/-! ## Lines -/

/-- Lines that were ended one by one are cut at their ends, and nothing is left after the last. -/
theorem pieces_lines {ls : List String} (h : ∀ l ∈ ls, '\n' ∉ l.toList) :
    pieces '\n' (String.join (ls.map (· ++ "\n"))) = ls ++ [""] := by
  induction ls with
  | nil => rfl
  | cons l ls ih =>
    obtain ⟨hl, hls⟩ := List.forall_mem_cons.mp h
    have htext : (String.join ((l :: ls).map (· ++ "\n"))).toList =
        l.toList ++ '\n' :: (String.join (ls.map (· ++ "\n"))).toList := by
      simp
    rw [pieces, htext, List.splitOn_append_cons_self_of_not_mem hl, List.map_cons,
      String.ofList_toList, ← pieces, ih hls, List.cons_append]

/-! ## Blank texts -/

theorem allBlank_iff {s : String} : allBlank s = true ↔ ∀ c ∈ s.toList, isBlank c = true := by
  rw [allBlank, List.all_eq_true]

/-- A blank text has no separator, unless this is blank itself. -/
theorem pieces_of_allBlank {c : Char} {s : String} (hc : isBlank c = false)
    (h : allBlank s = true) :
    pieces c s = [s] := by
  refine pieces_of_not_mem fun hmem => ?_
  rw [allBlank_iff.mp h c hmem] at hc
  cases hc

end ConfigBinding.Text
