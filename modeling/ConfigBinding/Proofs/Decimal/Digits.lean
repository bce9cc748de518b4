import Mathlib.Data.List.Induction
import ConfigBinding.Decimal.Digits
import ConfigBinding.Proofs.Numeral.Digits

/-!
# Written digits

The decimal digits that a number is written with, plain (`digits_spec`), padded to a width
(`paddedDigits_spec`) and without the zeros at their end (`dropZerosEnd_map_digitChar`), as
characters of digits whose value is known.
-/

set_option autoImplicit false

namespace ConfigBinding.Decimal

open Numeral

theorem digits_map_digitChar {base : Nat} {ds : List Nat} (h : ∀ d ∈ ds, d < base) :
    Digits base (ds.map Nat.digitChar) ds := by
  induction ds with
  | nil => exact .nil
  | cons d ds ih =>
    obtain ⟨hd, hds⟩ := List.forall_mem_cons.mp h
    exact .cons ⟨hd, .inl rfl⟩ (ih hds)

/-- A number is written with one digit at least, and its digits stand for it. -/
theorem digits_spec (n : Nat) :
    ∃ ds, digits n = ds.map Nat.digitChar ∧ ds ≠ [] ∧ (∀ d ∈ ds, d < 10) ∧
      Numeral.positional 10 ds = n := by
  obtain ⟨ds, htext, hlt, hvalue, -⟩ := toDigits_spec (by decide : 1 < 10) n
  refine ⟨ds, htext, ?_, hlt, hvalue⟩
  rintro rfl
  exact Nat.toDigits_ne_nil htext

theorem toList_intText (n : Int) :
    (intText n).toList = (if n < 0 then ['-'] else []) ++ digits n.natAbs := by
  cases n with
  | ofNat n => simp [intText, natText]
  | negSucc n => simp [intText, Int.negSucc_lt_zero]

/-- Padded digits stand for the last places of a number. -/
theorem paddedDigits_spec (width n : Nat) :
    ∃ es, paddedDigits width n = es.map Nat.digitChar ∧ (∀ d ∈ es, d < 10) ∧ es.length = width ∧
      Numeral.positional 10 es = n % 10 ^ width := by
  induction width generalizing n with
  | zero => exact ⟨[], rfl, by simp, rfl, by simp [Numeral.positional, Nat.mod_one]⟩
  | succ width ih =>
    obtain ⟨es, htext, hlt, hlen, hvalue⟩ := ih (n / 10)
    refine ⟨es ++ [n % 10], ?_, ?_, ?_, ?_⟩
    · rw [paddedDigits, htext, List.map_append]
      rfl
    · intro d hd
      rcases List.mem_append.mp hd with hd | hd
      · exact hlt d hd
      · rw [List.mem_singleton.mp hd]
        exact Nat.mod_lt n (by decide)
    · rw [List.length_append, hlen, List.length_singleton]
    · rw [positional_append, hvalue, pow_succ', Nat.mod_mul]
      omega

theorem dropZerosEnd_append (cs : List Char) (c : Char) :
    dropZerosEnd (cs ++ [c]) = if c = '0' then dropZerosEnd cs else cs ++ [c] := by
  by_cases hc : c = '0' <;> simp [dropZerosEnd, hc]

theorem digitChar_eq_zero_iff : ∀ d < 10, Nat.digitChar d = '0' ↔ d = 0 := by
  decide

/-- Digits without their zeros at the end are what stands in front of these. -/
theorem dropZerosEnd_map_digitChar {es : List Nat} (h : ∀ d ∈ es, d < 10) :
    ∃ front zeros, es = front ++ List.replicate zeros 0 ∧
      dropZerosEnd (es.map Nat.digitChar) = front.map Nat.digitChar := by
  induction es using List.reverseRecOn with
  | nil => exact ⟨[], 0, rfl, rfl⟩
  | append_singleton es d ih =>
    have hd := digitChar_eq_zero_iff d (h d (by simp))
    rw [List.map_append, List.map_singleton, dropZerosEnd_append]
    by_cases hzero : d = 0
    · obtain ⟨front, zeros, hes, hdrop⟩ := ih fun x hx => h x (List.mem_append_left _ hx)
      rw [if_pos (hd.mpr hzero)]
      refine ⟨front, zeros + 1, ?_, hdrop⟩
      rw [List.replicate_succ', ← List.append_assoc, ← hes, hzero]
    · rw [if_neg (mt hd.mp hzero)]
      exact ⟨es ++ [d], 0, by simp, by simp⟩

end ConfigBinding.Decimal
