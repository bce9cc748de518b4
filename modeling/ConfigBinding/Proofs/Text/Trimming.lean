import ConfigBinding.Text.Blank
import Mathlib.Data.List.DropRight
import Mathlib.Data.List.GetD

/-!
# Blank ends

What is left of a text without the blank characters at its end: a prefix that does not end blank.
Blank ends make no difference (`dropBlankEnd_append_of_blank`), so a text may be taken to go on with
spaces, and what stands at each place then decides what is left (`dropBlankEnd_congr`).
-/

set_option autoImplicit false

namespace ConfigBinding.Text

section
variable {as bs cs ds : List Char}

theorem dropBlankEnd_prefix (cs : List Char) : dropBlankEnd cs <+: cs :=
  List.rdropWhile_prefix isBlank cs

/-- What is left does not end blank. -/
theorem isBlank_of_getLast?_dropBlankEnd {c : Char} (h : (dropBlankEnd cs).getLast? = some c) :
    isBlank c = false := by
  have hne : dropBlankEnd cs ≠ [] := List.ne_nil_of_mem (List.mem_of_getLast? h)
  have hink : ¬ isBlank ((dropBlankEnd cs).getLast hne) = true :=
    List.rdropWhile_last_not isBlank cs hne
  rw [List.getLast_of_getLast?_eq_some h] at hink
  exact Bool.eq_false_iff.mpr hink

/-- A blank end makes no difference. -/
theorem dropBlankEnd_append_of_blank (h : ∀ c ∈ bs, isBlank c = true) :
    dropBlankEnd (as ++ bs) = dropBlankEnd as := by
  rw [dropBlankEnd, List.reverse_append, List.dropWhile_append_of_pos (by simpa using h),
    dropBlankEnd]

/-- What is cut off is blank. -/
theorem exists_blank_end (cs : List Char) :
    ∃ bs, cs = dropBlankEnd cs ++ bs ∧ ∀ c ∈ bs, isBlank c = true :=
  ⟨cs.rtakeWhile isBlank, List.rdropWhile_append_rtakeWhile.symm,
    fun _ => List.mem_rtakeWhile_imp⟩

theorem getD_append_spaces (cs : List Char) (n k : Nat) :
    (cs ++ List.replicate n ' ').getD k ' ' = cs.getD k ' ' := by
  rcases Nat.lt_or_ge k cs.length with hk | hk
  · rw [List.getD_append _ _ _ _ hk]
  · rw [List.getD_append_right _ _ _ _ hk, List.getD_eq_default _ _ hk, List.getD_eq_getElem?_getD,
      List.getElem?_replicate]
    split <;> rfl

/-- Texts that differ in the number of spaces at the end at most are left with the same. -/
theorem dropBlankEnd_congr (h : ∀ k, cs.getD k ' ' = ds.getD k ' ') :
    dropBlankEnd cs = dropBlankEnd ds := by
  wlog hlen : cs.length ≤ ds.length generalizing cs ds
  · exact (this (fun k => (h k).symm) (Nat.le_of_not_le hlen)).symm
  have hspaces : ds = cs ++ List.replicate (ds.length - cs.length) ' ' := by
    refine List.ext_getElem (by simp; omega) fun k hk _ => ?_
    have hsame := h k
    rw [List.getD_eq_getElem _ _ hk] at hsame
    rw [← hsame, List.getElem_append]
    split
    case isTrue hlt => exact List.getD_eq_getElem _ _ hlt
    case isFalse hge => rw [List.getD_eq_default _ _ (Nat.le_of_not_lt hge), List.getElem_replicate]
  rw [hspaces, dropBlankEnd_append_of_blank]
  intro c hc
  rw [List.eq_of_mem_replicate hc]
  rfl

end

end ConfigBinding.Text
