import ConfigBinding.Decimal.Notation
import ConfigBinding.Proofs.Decimal.Digits
import ConfigBinding.Proofs.Duration.Terms

/-!
# Written numbers are decimals

What integers and finite floating-point values are written as, in every style, are decimals: digits,
a point and a fraction, and an exponent, where the last two may be missing (`IsDecimal`). The reader
of floating-point texts takes every decimal, with a minus sign in front or without (`isSome_read?`).
-/

set_option autoImplicit false

namespace ConfigBinding.Decimal

open Duration (Stops)

/-- Every character is a decimal digit. -/
def AllDigits (cs : List Char) : Prop :=
  ∀ c ∈ cs, c.isDigit = true

/-- The exponent at the end of a decimal, or nothing. -/
inductive IsExponent : List Char → Int → Prop
  | absent : IsExponent [] 0
  | written (n : Int) : IsExponent ('e' :: (intText n).toList) n

/-- A decimal: digits, and perhaps a fraction and an exponent. -/
inductive IsDecimal : List Char → Prop
  | whole {ks tail : List Char} {n : Int} : ks ≠ [] → AllDigits ks → IsExponent tail n →
      IsDecimal (ks ++ tail)
  | pointed {ks fs tail : List Char} {n : Int} : ks ≠ [] → AllDigits ks → AllDigits fs →
      IsExponent tail n → IsDecimal (ks ++ '.' :: (fs ++ tail))

/-! ## Reading -/

theorem allDigits_digits (n : Nat) : AllDigits (digits n) := fun _ =>
  Nat.isDigit_of_mem_toDigits (by decide) (by decide)

theorem digits_ne_nil (n : Nat) : digits n ≠ [] :=
  Nat.toDigits_ne_nil

/-- Digits start with no sign. -/
theorem splitSign_of_allDigits {ks : List Char} (hne : ks ≠ []) (hks : AllDigits ks)
    (rest : List Char) : splitSign (ks ++ rest) = (false, ks ++ rest) := by
  obtain ⟨c, cs, rfl⟩ := List.exists_cons_of_ne_nil hne
  have hc : c.isDigit = true := hks c List.mem_cons_self
  have hsign : ∀ d, d.isDigit = false → ∀ ds, c :: cs ++ rest ≠ d :: ds := by
    rintro d hd ds h
    obtain rfl := (List.cons.inj h).1
    rw [hc] at hd
    cases hd
  exact splitSign_plain (hsign '-' rfl) (hsign '+' rfl)

theorem splitSign_intText (n : Int) :
    splitSign (intText n).toList = (decide (n < 0), digits n.natAbs) := by
  rw [toList_intText]
  by_cases hn : n < 0
  · simp [hn, splitSign]
  · have hplain := splitSign_of_allDigits (digits_ne_nil n.natAbs) (allDigits_digits _) []
    simpa [hn] using hplain

theorem value_digits (n : Nat) : value (digits n) = n := by
  obtain ⟨ds, htext, -, hds, hvalue⟩ := digits_spec n
  have hback : (ds.map Nat.digitChar).map digitValue = ds := by
    rw [List.map_map]
    exact (List.map_congr_left fun d hd => (Duration.digitChar_spec d (hds d hd)).2.2).trans
      (List.map_id ds)
  rw [Duration.value_eq_positional, htext, hback, hvalue]

theorem readExponent?_of_isExponent {tail : List Char} {n : Int} (h : IsExponent tail n) :
    readExponent? tail = some n := by
  cases h with
  | absent => rfl
  | written =>
    have hsome : (digits n.natAbs).isEmpty = false := by simp [digits_ne_nil]
    have hall : (digits n.natAbs).all Char.isDigit = true :=
      List.all_eq_true.mpr (allDigits_digits _)
    simp only [readExponent?, true_or, ↓reduceIte, splitSign_intText, hsome, hall, value_digits,
      Bool.not_true, Bool.or_false, Bool.false_eq_true, decide_eq_true_eq, Int.ofNat_eq_natCast]
    split <;> congr 1 <;> omega

/-- An exponent ends the digits before it and is no point. -/
theorem IsExponent.stops {tail : List Char} {n : Int} (h : IsExponent tail n) :
    Stops Char.isDigit tail ∧ tail.head? ≠ some '.' := by
  cases h with
  | absent => exact ⟨.nil _, nofun⟩
  | written => exact ⟨Duration.stops_cons_iff.mpr rfl, by simp⟩

/-- Every decimal is read as one. -/
theorem isSome_readDecimal? {cs : List Char} (h : IsDecimal cs) (negative : Bool) :
    (readDecimal? negative cs).isSome = true := by
  cases h with
  | whole hne hks htail =>
    have hsplit := Duration.splitPoint_plain hks htail.stops.1 htail.stops.2
    simp [readDecimal?, hsplit, hne, readExponent?_of_isExponent htail]
  | pointed hne hks hfs htail =>
    have hsplit := Duration.splitPoint_point hks hfs htail.stops.1
    simp [readDecimal?, hsplit, hne, readExponent?_of_isExponent htail]

theorem IsDecimal.splitSign {cs : List Char} (h : IsDecimal cs) :
    Decimal.splitSign cs = (false, cs) := by
  cases h with
  | whole hne hks => exact splitSign_of_allDigits hne hks _
  | pointed hne hks => exact splitSign_of_allDigits hne hks _

/-- A decimal is read with a minus sign or without. -/
theorem isSome_read? {cs : List Char} (h : IsDecimal cs) (negative : Bool) :
    (FloatText.read? ((if negative then ['-'] else []) ++ cs)).isSome = true := by
  have hsign : Decimal.splitSign ((if negative then ['-'] else []) ++ cs) = (negative, cs) := by
    cases negative with
    | false => exact h.splitSign
    | true => rfl
  -- The words are read as well, so nothing needs to be said of them.
  simp only [FloatText.read?, hsign]
  split_ifs
  · rfl
  · rfl
  · exact isSome_readDecimal? h negative

/-! ## Writing -/

theorem isDecimal_digits (n : Nat) : IsDecimal (digits n) := by
  rw [← List.append_nil (digits n)]
  exact .whole (digits_ne_nil n) (allDigits_digits n) .absent

theorem isDecimal_pointed {ks fs : List Char} (hne : ks ≠ []) (hks : AllDigits ks)
    (hfs : AllDigits fs) : IsDecimal (ks ++ '.' :: fs) := by
  rw [← List.append_nil fs]
  exact .pointed hne hks hfs .absent

theorem allDigits_zeros (n : Nat) : AllDigits (List.replicate n '0') := fun c hc => by
  rw [List.eq_of_mem_replicate hc]
  rfl

section
variable {ds : List Char} (hne : ds ≠ []) (hds : AllDigits ds)
include hds

theorem AllDigits.append {es : List Char} (hes : AllDigits es) : AllDigits (ds ++ es) := fun c hc =>
  (List.mem_append.mp hc).elim (hds c) (hes c)

theorem AllDigits.take (n : Nat) : AllDigits (ds.take n) :=
  fun c hc => hds c (List.mem_of_mem_take hc)

theorem AllDigits.drop (n : Nat) : AllDigits (ds.drop n) :=
  fun c hc => hds c (List.mem_of_mem_drop hc)

include hne

/-- The point stands before all digits, behind all of them, or between two. -/
theorem isDecimal_positional (point : Int) : IsDecimal (positional ds point) := by
  dsimp only [positional]
  split_ifs
  · exact isDecimal_pointed (List.cons_ne_nil '0' []) (allDigits_zeros 1)
      ((allDigits_zeros _).append hds)
  · exact isDecimal_pointed (List.append_ne_nil_of_left_ne_nil hne _)
      (hds.append (allDigits_zeros _)) (allDigits_zeros 1)
  · have hn : point.toNat ≠ 0 := by omega
    refine isDecimal_pointed (fun hnil => ?_) (hds.take _) (hds.drop _)
    exact (List.take_eq_nil_iff.mp hnil).elim hn hne

theorem isDecimal_scientific (point : Int) : IsDecimal (scientific ds point) := by
  have hfirst : ds.take 1 ≠ [] := by simp [hne]
  dsimp only [scientific]
  split_ifs
  · rw [List.append_nil]
    exact .whole hfirst (hds.take 1) (.written _)
  · rw [List.append_assoc]
    exact .pointed hfirst (hds.take 1) (hds.drop 1) (.written _)

end

theorem isDecimal_magnitude (style : FloatStyle) (f : BinaryFormat) (mantissa : Nat)
    (exponent : Int) : IsDecimal (style.magnitude f mantissa exponent) := by
  dsimp only [FloatStyle.magnitude]
  split_ifs
  · exact isDecimal_pointed (List.cons_ne_nil '0' []) (allDigits_zeros 1) (allDigits_zeros 1)
  · exact isDecimal_positional (digits_ne_nil _) (allDigits_digits _) _
  · exact isDecimal_scientific (digits_ne_nil _) (allDigits_digits _) _

/-- Every finite value is read from what it is written as, in every style. -/
theorem isSome_read?_render (style : FloatStyle) (f : BinaryFormat) (negative : Bool)
    (mantissa : Nat) (exponent : Int) :
    (FloatText.read? (style.render f (.finite negative mantissa exponent)).toList).isSome =
      true := by
  have hdecimal := isSome_read? (isDecimal_magnitude style f mantissa exponent) negative
  cases negative <;> simpa [FloatStyle.render] using hdecimal

theorem isSome_read?_intText (n : Int) : (FloatText.read? (intText n).toList).isSome = true := by
  have hdecimal := isSome_read? (isDecimal_digits n.natAbs) (decide (n < 0))
  rw [toList_intText]
  simpa using hdecimal

end ConfigBinding.Decimal
