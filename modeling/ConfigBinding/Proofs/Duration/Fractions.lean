import ConfigBinding.Proofs.Duration.Reading

/-!
# Long fractions

Only the first 18 digits of a fraction count. A unit whose nanoseconds divide `10 ^ 18`, that is
every unit up to the second, is exact at that place: what the digits behind it add is rounded off
anyway (`not_loses_of_dvd`). A minute and an hour have a factor three: the digits behind the 18th
may be what makes up a whole nanosecond, and then one is lost (`Loses`, `nanosecond_lost`), never
more (`floor_share_of_loses`).
-/

set_option autoImplicit false

namespace ConfigBinding.Duration

open Numeral

/-- `text` is a term: the digits `ds`, the fraction digits `es` behind a point if there is one, and
a unit of `scale` nanoseconds. -/
inductive Written : List Char → (ds es : List Nat) → (unit : String) → (scale : Nat) → Prop
  | whole {ks : List Char} {ds : List Nat} {unit : String} {scale : Nat} : ks ≠ [] →
      Digits 10 ks ds → (unit, scale) ∈ units → Written (ks ++ unit.toList) ds [] unit scale
  | pointed {ks fs : List Char} {ds es : List Nat} {unit : String} {scale : Nat} :
      ks ≠ [] ∨ fs ≠ [] → Digits 10 ks ds → Digits 10 fs es → (unit, scale) ∈ units →
      Written (ks ++ '.' :: (fs ++ unit.toList)) ds es unit scale

/-- The nanoseconds of a number in a unit, all of its digits counted. -/
def exactNanos (scale : Nat) (ds es : List Nat) : ℚ :=
  scale * (positional 10 ds + fractional es)

/-- A text adds `n` nanoseconds wherever it stands as a term of a duration. -/
def Adds (text : List Char) (n : Nat) : Prop :=
  ∀ (total : Nat) (rest : List Char), Stops isUnitChar rest →
    readTerms total (text ++ rest) =
      if total + n ≤ maxNanos then readTerms (total + n) rest else .error .overflow

/-- A fraction loses a nanosecond if its share of the unit passes a whole number that the share of
its first 18 digits does not reach. -/
def Loses (scale : Nat) (es : List Nat) : Prop :=
  ∃ m : Nat, scale * fractional (es.take 18) < m ∧ (m : ℚ) ≤ scale * fractional es

theorem Written.isTerm {text : List Char} {ds es : List Nat} {unit : String} {scale : Nat}
    (h : Written text ds es unit scale) : IsTerm text (amount scale ds es) := by
  cases h with
  | whole hne hks hunit => exact .whole hne hks hunit
  | pointed hne hks hfs hunit => exact .pointed hne hks hfs hunit

theorem Written.mem_units {text : List Char} {ds es : List Nat} {unit : String} {scale : Nat}
    (h : Written text ds es unit scale) : (unit, scale) ∈ units := by
  cases h <;> assumption

theorem lt_ten_of_digits {ks : List Char} {ds : List Nat} (h : Digits 10 ks ds) :
    ∀ d ∈ ds, d < 10 := by
  intro d hd
  induction h with
  | nil => cases hd
  | cons hc _ ih =>
    rcases List.mem_cons.mp hd with rfl | hd
    · exact hc.1
    · exact ih hd

theorem Written.lt_ten {text : List Char} {ds es : List Nat} {unit : String} {scale : Nat}
    (h : Written text ds es unit scale) : ∀ d ∈ es, d < 10 := by
  cases h with
  | whole => simp
  | pointed _ _ hfs _ => exact lt_ten_of_digits hfs

/-! ## Fractions cut off -/

theorem positional_append_digits (xs ys : List Nat) :
    positional 10 (xs ++ ys) = positional 10 xs * 10 ^ ys.length + positional 10 ys := by
  simp only [positional, List.reverse_append, Nat.ofDigits_append, List.length_reverse]
  ring

theorem fractional_append (xs ys : List Nat) :
    fractional (xs ++ ys) = fractional xs + fractional ys / 10 ^ xs.length := by
  simp only [fractional, positional_append_digits, List.length_append, pow_add]
  push_cast
  field_simp

theorem fractional_nonneg (es : List Nat) : 0 ≤ fractional es := by
  unfold fractional
  positivity

theorem fractional_lt_one {es : List Nat} (h : ∀ d ∈ es, d < 10) : fractional es < 1 := by
  unfold fractional
  rw [div_lt_one (by positivity)]
  exact_mod_cast positional_lt h

theorem fractional_take_le (n : Nat) (es : List Nat) : fractional (es.take n) ≤ fractional es := by
  have hsplit := fractional_append (es.take n) (es.drop n)
  rw [List.take_append_drop] at hsplit
  rw [hsplit, le_add_iff_nonneg_right]
  exact div_nonneg (fractional_nonneg _) (by positivity)

/-- Digits behind a place are worth less than one at that place. -/
theorem fractional_lt_take {n : Nat} {es : List Nat} (h : ∀ d ∈ es, d < 10) :
    fractional es < fractional (es.take n) + 1 / 10 ^ (es.take n).length := by
  have hsplit := fractional_append (es.take n) (es.drop n)
  rw [List.take_append_drop] at hsplit
  have htail : fractional (es.drop n) < 1 :=
    fractional_lt_one fun d hd => h d (List.mem_of_mem_drop hd)
  rw [hsplit]
  gcongr

/-- A fraction that is cut has 18 digits left. -/
theorem Loses.lt_length {scale : Nat} {es : List Nat} (h : Loses scale es) : 18 < es.length := by
  obtain ⟨m, hcut, hfull⟩ := h
  by_contra hle
  rw [List.take_of_length_le (by omega)] at hcut
  exact absurd hfull (not_le.mpr hcut)

theorem Loses.length_take {scale : Nat} {es : List Nat} (h : Loses scale es) :
    (es.take 18).length = 18 := by
  have := h.lt_length
  simp only [List.length_take]
  omega

theorem Loses.fractional_lt {scale : Nat} {es : List Nat} (h : Loses scale es)
    (hes : ∀ d ∈ es, d < 10) : fractional es < fractional (es.take 18) + 1 / 10 ^ 18 := by
  have hlt := fractional_lt_take (n := 18) hes
  rwa [h.length_take] at hlt

/-- A unit whose nanoseconds divide `10 ^ 18` loses nothing. -/
theorem not_loses_of_dvd {scale : Nat} (hscale : scale ∣ 10 ^ 18) {es : List Nat}
    (hes : ∀ d ∈ es, d < 10) : ¬ Loses scale es := by
  intro h
  have hlen := h.length_take
  have htail := h.fractional_lt hes
  obtain ⟨m, hcut, hfull⟩ := h
  obtain ⟨c, hc⟩ := hscale
  have hcq : (scale : ℚ) * c = 10 ^ 18 := by exact_mod_cast hc.symm
  have hpos : (0 : ℚ) < scale := by
    have : scale ≠ 0 := by
      rintro rfl
      simp at hc
    positivity
  have hcpos : (0 : ℚ) < c := by
    by_contra hzero
    nlinarith
  -- In units of `10 ^ 18` the share of the digits that count is a whole number.
  have hvalue : (scale : ℚ) * fractional (es.take 18) * c = positional 10 (es.take 18) := by
    rw [mul_right_comm, hcq, fractional, hlen]
    field_simp
  have hnext : positional 10 (es.take 18) + 1 ≤ m * c := by
    have hlt : (positional 10 (es.take 18) : ℚ) < m * c := by
      rw [← hvalue]
      exact mul_lt_mul_of_pos_right hcut hcpos
    exact_mod_cast hlt
  have hstep : (scale : ℚ) * (1 / 10 ^ 18) * c = 1 := by
    rw [mul_right_comm, hcq]
    norm_num
  have hless : (m : ℚ) * c < m * c := by
    calc (m : ℚ) * c ≤ scale * fractional es * c := by gcongr
      _ < scale * (fractional (es.take 18) + 1 / 10 ^ 18) * c := by gcongr
      _ = positional 10 (es.take 18) + 1 := by rw [mul_add, add_mul, hvalue, hstep]
      _ ≤ m * c := by exact_mod_cast hnext
  exact lt_irrefl _ hless

/-! ## The share of a fraction -/

theorem share_nonneg (scale : Nat) (es : List Nat) : 0 ≤ (scale : ℚ) * fractional es :=
  mul_nonneg (Nat.cast_nonneg scale) (fractional_nonneg es)

section
variable {scale : Nat} {es : List Nat}

theorem floor_share_of_not_loses (h : ¬ Loses scale es) :
    ⌊scale * fractional (es.take 18)⌋₊ = ⌊scale * fractional es⌋₊ := by
  apply le_antisymm
  · exact Nat.floor_mono (mul_le_mul_of_nonneg_left (fractional_take_le 18 es) (Nat.cast_nonneg _))
  · rw [Nat.le_floor_iff (share_nonneg scale _)]
    by_contra hlt
    exact h ⟨_, not_le.mp hlt, Nat.floor_le (share_nonneg scale es)⟩

/-- What is lost is one nanosecond, as no unit is longer than `10 ^ 18` of them. -/
theorem floor_share_of_loses (hscale : scale ≤ 10 ^ 18) (hes : ∀ d ∈ es, d < 10)
    (h : Loses scale es) :
    ⌊scale * fractional es⌋₊ = ⌊scale * fractional (es.take 18)⌋₊ + 1 := by
  have htail := h.fractional_lt hes
  have hnonneg : 0 ≤ (scale : ℚ) * fractional es := share_nonneg scale es
  have hshare : 0 ≤ (scale : ℚ) * fractional (es.take 18) := share_nonneg scale _
  have hclose : (scale : ℚ) * fractional es ≤ scale * fractional (es.take 18) + 1 := by
    have hstep : (scale : ℚ) * (1 / 10 ^ 18) ≤ 1 := by
      rw [mul_one_div, div_le_one (by positivity)]
      exact_mod_cast hscale
    calc (scale : ℚ) * fractional es
        ≤ scale * (fractional (es.take 18) + 1 / 10 ^ 18) := by gcongr
      _ ≤ scale * fractional (es.take 18) + 1 := by rw [mul_add]; gcongr
  obtain ⟨m, hcut, hfull⟩ := h
  apply le_antisymm
  · have hmono := Nat.floor_mono hclose
    rwa [Nat.floor_add_one hshare] at hmono
  · have hlow : ⌊(scale : ℚ) * fractional (es.take 18)⌋₊ < m := (Nat.floor_lt hshare).mpr hcut
    exact Nat.le_trans hlow ((Nat.le_floor_iff hnonneg).mpr hfull)

end

theorem floor_exactNanos (scale : Nat) (ds es : List Nat) :
    ⌊exactNanos scale ds es⌋₊ = positional 10 ds * scale + ⌊scale * fractional es⌋₊ := by
  have hsum : exactNanos scale ds es =
      scale * fractional es + ((positional 10 ds * scale : Nat) : ℚ) := by
    unfold exactNanos
    push_cast
    ring
  rw [hsum, Nat.floor_add_natCast (share_nonneg scale es), Nat.add_comm]

theorem scale_of_mem_units : ∀ p ∈ units, p.2 ≤ 10 ^ 18 ∧
    (p.2 ∣ 10 ^ 18 ∨ p.1 = "m" ∨ p.1 = "h") := by
  decide

/-- **Fractions of a term.** A term adds the nanoseconds that all of its digits stand for, rounded
down, unless digits behind the 18th of its fraction make up a whole nanosecond that the digits
before them do not reach. It then adds one nanosecond less. That takes more than 18 fraction digits,
of minutes or hours. -/
theorem fraction_cut {text : List Char} {ds es : List Nat} {unit : String} {scale : Nat}
    (h : Written text ds es unit scale) :
    (¬ Loses scale es → Adds text ⌊exactNanos scale ds es⌋₊) ∧
    (Loses scale es → 0 < ⌊exactNanos scale ds es⌋₊ ∧ Adds text (⌊exactNanos scale ds es⌋₊ - 1) ∧
      18 < es.length ∧ (unit = "m" ∨ unit = "h")) := by
  have hadds : Adds text (amount scale ds es) := fun total rest hrest =>
    readTerms_append h.isTerm hrest total
  obtain ⟨hscale, hunit⟩ := scale_of_mem_units _ h.mem_units
  rw [floor_exactNanos]
  refine ⟨fun hkept => ?_, fun hlost => ?_⟩
  · rw [← floor_share_of_not_loses hkept]
    exact hadds
  · rw [floor_share_of_loses hscale h.lt_ten hlost, ← Nat.add_assoc, Nat.add_sub_cancel]
    refine ⟨Nat.succ_pos _, hadds, hlost.lt_length, hunit.resolve_left fun hdvd => ?_⟩
    exact not_loses_of_dvd hdvd h.lt_ten hlost

/-- Two minutes and a nanosecond add no more than two minutes: the nanosecond takes the 19th
digit. -/
theorem fraction_cut_nineteenth :
    let es := [0, 0, 0, 0, 0, 0, 0, 0, 0, 0, 1, 6, 6, 6, 6, 6, 6, 6, 7]
    let text := "2.0000000000166666667m".toList
    Written text [2] es "m" 60000000000 ∧ Loses 60000000000 es ∧ Adds text 120000000000 := by
  intro es text
  have htext : text = ['2'] ++ '.' :: ("0000000000166666667".toList ++ "m".toList) := by decide
  have hwritten : Written text [2] es "m" 60000000000 := by
    rw [htext]
    exact .pointed (.inl (by decide)) (by decide) (by decide) (by decide)
  have hloses : Loses 60000000000 es := by
    refine ⟨1, ?_, ?_⟩ <;> norm_num [es, fractional, positional, Nat.ofDigits]
  have hfloor : ⌊exactNanos 60000000000 [2] es⌋₊ = 120000000001 := by
    rw [Nat.floor_eq_iff' (by decide)]
    norm_num [es, exactNanos, fractional, positional, Nat.ofDigits]
  obtain ⟨-, hadds, -⟩ := (fraction_cut hwritten).2 hloses
  rw [hfloor] at hadds
  exact ⟨hwritten, hloses, hadds⟩

/-- A duration of a nanosecond, written in minutes, is read as none: the digit that makes up the
nanosecond is the 19th of the fraction. -/
theorem nanosecond_lost :
    let es := [0, 0, 0, 0, 0, 0, 0, 0, 0, 0, 1, 6, 6, 6, 6, 6, 6, 6, 7]
    read ".0000000000166666667m" = .ok ⟨0, by decide⟩ ∧
      Written ".0000000000166666667m".toList [] es "m" 60000000000 ∧
      ⌊exactNanos 60000000000 [] es⌋₊ = 1 := by
  intro es
  have htext : ".0000000000166666667m".toList =
      [] ++ '.' :: ("0000000000166666667".toList ++ "m".toList) := by decide
  refine ⟨by decide +kernel, ?_, ?_⟩
  · rw [htext]
    exact .pointed (.inr (by decide)) .nil (by decide) (by decide)
  · rw [Nat.floor_eq_iff' (by decide)]
    norm_num [es, exactNanos, fractional, positional, Nat.ofDigits]

end ConfigBinding.Duration
