import ConfigBinding.Proofs.Numeral.Digits
import ConfigBinding.Text.Pieces
import ConfigBinding.Text.Quoted

/-!
# Printable texts

Texts without unprintable characters, so without line breaks (`newline_not_mem`). Quoted texts are
printable, whatever they quote (`printable_quote`): every character that is not has an escape, and
escapes are made of letters, digits and braces.
-/

set_option autoImplicit false

namespace ConfigBinding.Text

/-- No character is unprintable. -/
def Printable (cs : List Char) : Prop :=
  ∀ c ∈ cs, isUnprintable c = false

instance (cs : List Char) : Decidable (Printable cs) :=
  List.decidableBAll _ cs

section
variable {as bs : List Char}

theorem Printable.newline_not_mem (h : Printable as) : '\n' ∉ as := fun hmem => by
  have hnewline := h '\n' hmem
  revert hnewline
  decide

@[simp] theorem printable_append : Printable (as ++ bs) ↔ Printable as ∧ Printable bs :=
  List.forall_mem_append

@[simp] theorem printable_cons {c : Char} :
    Printable (c :: as) ↔ isUnprintable c = false ∧ Printable as :=
  List.forall_mem_cons

@[simp] theorem printable_nil : Printable [] := List.forall_mem_nil _

theorem Printable.of_subset (h : Printable bs) (hsub : as ⊆ bs) : Printable as :=
  fun c hc => h c (hsub hc)

theorem printable_replicate {c : Char} (h : isUnprintable c = false) (n : Nat) :
    Printable (List.replicate n c) := fun d hd => by
  rw [List.eq_of_mem_replicate hd]
  exact h

/-- Joined texts are printable if they and the separator are. -/
theorem printable_join {sep : String} {parts : List String} (hsep : Printable sep.toList)
    (h : ∀ p ∈ parts, Printable p.toList) : Printable (join sep parts).toList := by
  rw [join, String.toList_intercalate]
  induction parts with
  | nil => simp
  | cons p parts ih =>
    obtain ⟨hp, hparts⟩ := List.forall_mem_cons.mp h
    cases parts with
    | nil => simpa using hp
    | cons q parts =>
      rw [List.map_cons, List.map_cons, List.intercalate_cons_cons, printable_append,
        printable_append]
      exact ⟨⟨hp, hsep⟩, ih hparts⟩

end

/-! ## Digits -/

theorem isUnprintable_digitChar : ∀ d < 16, isUnprintable (Nat.digitChar d) = false := by
  decide

theorem printable_map_digitChar {ds : List Nat} (h : ∀ d ∈ ds, d < 16) :
    Printable (ds.map Nat.digitChar) := by
  intro c hc
  obtain ⟨d, hd, rfl⟩ := List.mem_map.mp hc
  exact isUnprintable_digitChar d (h d hd)

theorem printable_toDigits {base : Nat} (h : 1 < base) (hbase : base ≤ 16) (n : Nat) :
    Printable (Nat.toDigits base n) := by
  obtain ⟨ds, hdigits, hlt, -, -⟩ := Numeral.toDigits_spec h n
  rw [hdigits]
  exact printable_map_digitChar fun d hd => (hlt d hd).trans_le hbase

/-! ## Quotes -/

theorem printable_codeEscape (c : Char) : Printable (codeEscape c) := by
  rw [codeEscape, printable_append, printable_append]
  exact ⟨⟨by decide, printable_toDigits (by decide) (by decide) c.toNat⟩, by decide⟩

/-- A character stands between delimiters as itself only if it is printable. -/
theorem printable_escapeChar {delimiter : Char} (h : isUnprintable delimiter = false) (c : Char) :
    Printable (escapeChar delimiter c) := by
  unfold escapeChar
  split_ifs with hzero htab hreturn hnewline hbackslash hdelimiter hinvisible
  · decide
  · decide
  · decide
  · decide
  · decide
  · exact printable_cons.mpr ⟨by decide, printable_cons.mpr ⟨hdelimiter ▸ h, printable_nil⟩⟩
  · exact printable_codeEscape c
  · rw [Bool.not_eq_true, Bool.or_eq_false_iff] at hinvisible
    exact printable_cons.mpr ⟨hinvisible.2, printable_nil⟩

theorem printable_quote (s : String) : Printable (quote s).toList := by
  rw [quote, quoteWith, String.toList_ofList, List.cons_append, printable_cons, printable_append]
  refine ⟨by decide, fun c hc => ?_, by decide⟩
  obtain ⟨d, -, hd⟩ := List.mem_flatMap.mp hc
  exact printable_escapeChar (by decide) d c hd

end ConfigBinding.Text
