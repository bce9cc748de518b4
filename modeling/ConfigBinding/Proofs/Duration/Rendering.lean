import ConfigBinding.Proofs.Decimal.Digits
import ConfigBinding.Proofs.Duration.Fractions

/-!
# Texts of durations

A duration is shown as one term: the whole units, and what is left of one as a fraction with as many
digits as the unit has decimal places, less the zeros at its end (`isTerm_decimalText`). No unit
that is shown has more than nine places, so all the digits count, and the text is read as the
duration (`read_render`).
-/

set_option autoImplicit false

namespace ConfigBinding.Duration

open Numeral

theorem fractional_append_zeros (es : List Nat) (zeros : Nat) :
    fractional (es ++ List.replicate zeros 0) = fractional es := by
  rw [fractional_append]
  simp [fractional, positional]

/-- A fraction of no more digits than a unit has decimal places adds its digits as they stand. -/
theorem amount_of_places {places n : Nat} {es : List Nat} (hplaces : places ≤ 18)
    (hlen : es.length ≤ places) (hvalue : fractional es = n / 10 ^ places) (ds : List Nat) :
    amount (10 ^ places) ds es = positional 10 ds * 10 ^ places + n := by
  have hshare : ((10 ^ places : Nat) : ℚ) * fractional es = n := by
    rw [hvalue]
    push_cast
    field_simp
  rw [amount, List.take_of_length_le (by omega), hshare, Nat.floor_natCast]

/-- The text of a number of places in a unit that has as many is a term of that number. -/
theorem isTerm_decimalText {places : Nat} {unit : String} (n : Nat)
    (hunit : (unit, 10 ^ places) ∈ units) (hplaces : places ≤ 18) :
    IsTerm (decimalText places n unit).toList n := by
  obtain ⟨ds, hwhole, hne, hds, hvalue⟩ := Decimal.digits_spec (n / 10 ^ places)
  obtain ⟨es, hpadded, hes, hlen, hrest⟩ := Decimal.paddedDigits_spec places (n % 10 ^ places)
  obtain ⟨front, zeros, hsplit, hfront⟩ := Decimal.dropZerosEnd_map_digitChar hes
  have htext : (decimalText places n unit).toList = ds.map Nat.digitChar ++
      ((if (front.map Nat.digitChar).isEmpty then [] else '.' :: front.map Nat.digitChar) ++
        unit.toList) := by
    unfold decimalText
    rw [Nat.pow_eq, hpadded, hfront, hwhole, String.toList_append, String.toList_ofList,
      List.append_assoc]
  have hks : Digits 10 (ds.map Nat.digitChar) ds := Decimal.digits_map_digitChar hds
  have hfs : Digits 10 (front.map Nat.digitChar) front :=
    Decimal.digits_map_digitChar fun d hd => hes d (by rw [hsplit]; simp [hd])
  have hnonempty : ds.map Nat.digitChar ≠ [] := by simpa using hne
  have hshort : front.length ≤ places := by
    have hlength := congrArg List.length hsplit
    simp only [List.length_append, List.length_replicate] at hlength
    omega
  have hfraction : fractional front = (n % 10 ^ places : Nat) / 10 ^ places := by
    rw [← fractional_append_zeros front zeros, ← hsplit, fractional, hrest, hlen, Nat.mod_mod]
  have hamount : amount (10 ^ places) ds front = n := by
    rw [amount_of_places hplaces hshort hfraction, hvalue]
    exact Nat.div_add_mod' n _
  rw [htext, ← hamount]
  cases front with
  | nil => exact .whole hnonempty hks hunit
  | cons e front => exact .pointed (.inl hnonempty) hks hfs hunit

theorem isTerm_render (d : Duration) : IsTerm d.render.toList d.nanos := by
  unfold render
  split_ifs <;> exact isTerm_decimalText _ (by decide) (by decide)

/-- Every duration that can be read is read from its text. -/
theorem read_render {d : Duration} (h : d.nanos ≤ maxNanos) : read d.render = .ok d := by
  rw [read_of_isSum (.last d.isTerm_render)]
  exact ofNanos_eq_ok_iff.mpr ⟨rfl, h⟩

end ConfigBinding.Duration
