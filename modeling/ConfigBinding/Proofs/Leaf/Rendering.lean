import ConfigBinding.Leaf.Basic
import ConfigBinding.Proofs.Duration.Rendering
import ConfigBinding.Proofs.Kind.Integers

/-!
# Leaves and their texts

A leaf that holds an integer, a truth value or a duration can be given the text it is shown with,
and holds its value again (`assign_render`).
-/

set_option autoImplicit false

namespace ConfigBinding

namespace Numeral

theorem digitChar_plain : ∀ d < 10, (Nat.digitChar d).toLower = Nat.digitChar d ∧
    Nat.digitChar d ≠ '_' := by
  decide

theorem separated_of_not_mem {ks : List Char} (hne : ks ≠ []) (h : '_' ∉ ks) : Separated ks ks := by
  induction ks with
  | nil => exact absurd rfl hne
  | cons c ks ih =>
    have hc := Ne.symm (List.ne_of_not_mem_cons h)
    cases ks with
    | nil => exact .last hc
    | cons d ks => exact .next hc (ih (by simp) (List.not_mem_of_not_mem_cons h))

/-- The decimal digits of a magnitude, behind a minus sign where the number is negative, spell
it. -/
theorem spells_digits (signed : Bool) (n : Int) :
    Spells signed n ((if n < 0 then ['-'] else []) ++ Decimal.digits n.natAbs) := by
  obtain ⟨ds, htext, hne, hds, -⟩ := Decimal.digits_spec n.natAbs
  have hplain : '_' ∉ Decimal.digits n.natAbs := by
    rw [htext]
    intro hmem
    obtain ⟨d, hd, hchar⟩ := List.mem_map.mp hmem
    exact (digitChar_plain d (hds d hd)).2 hchar
  have hbody : Body false (Decimal.digits n.natAbs) (Decimal.digits n.natAbs) :=
    .straight (separated_of_not_mem (by simpa [htext] using hne) hplain)
  have hlower : (Decimal.digits n.natAbs).map Char.toLower = Nat.toDigits 10 n.natAbs := by
    show _ = Decimal.digits n.natAbs
    rw [htext, List.map_map]
    exact List.map_congr_left fun d hd => (digitChar_plain d (hds d hd)).1
  have hsign : (if n < 0 then ['-'] else []) ∈ signs signed n := by
    unfold signs
    split_ifs <;> simp
  have hmark : ([], 10) ∈ marks := by decide
  have hspells := Spells.intro hsign hmark hbody hlower
  rwa [List.append_nil] at hspells

end Numeral

namespace Kind

/-- Every integer is read from its text. -/
theorem readInt_intText {t : IntType} (v : t.Value) :
    readInt t (Decimal.intText v.val) = .ok v := by
  rw [readInt_eq_ok_iff, Decimal.toList_intText]
  exact (Numeral.spells_digits t.signed v.val).literal (IntType.signed_of_neg v)

variable {order : EntryOrder}

theorem read_render_bool (b : Bool) : bool.read (bool.render order b) = .ok b := by
  have htruth : Text.truth? (bool.render order b) = some b := Text.truth?_ofTruth b
  rw [read_bool, htruth]
  rfl

theorem read_render_duration {d : Duration} (h : d.nanos ≤ Duration.maxNanos) :
    duration.read (duration.render order d) = .ok d := by
  show readDuration d.render = .ok d
  rw [readDuration, Duration.read_render h]

end Kind

namespace Leaf

/-- A value that is read from its text can be put into a leaf by it, whatever the leaf holds. -/
theorem assign_render_of_read {k : Kind} {order : EntryOrder} {v : k.Carrier}
    (h : k.read (k.render order v) = .ok v) (w : k.Carrier) :
    assign (shown order ⟨.kind k, v⟩) ⟨.kind k, w⟩ = .ok ⟨.kind k, v⟩ := by
  unfold assign
  split
  · rename_i u hu
    obtain rfl : u = v := Except.ok.inj (hu.symm.trans h)
    rfl
  · rename_i e he
    cases he.symm.trans h

/-- **Leaves of a scalar take their own text.** Whatever a leaf of an integer type, a truth value or
a duration holds, the text that shows a value of the type can be assigned to it, and it then holds
that value. A duration has to be one that can be read, of at most `2 ^ 63 - 1` nanoseconds. -/
theorem assign_render (order : EntryOrder) :
    (∀ (t : IntType) (v w : (Kind.int t).Carrier),
      assign (shown order ⟨.kind (.int t), v⟩) ⟨.kind (.int t), w⟩ = .ok ⟨.kind (.int t), v⟩) ∧
    (∀ v w : Kind.bool.Carrier,
      assign (shown order ⟨.kind .bool, v⟩) ⟨.kind .bool, w⟩ = .ok ⟨.kind .bool, v⟩) ∧
    (∀ v w : Duration, v.nanos ≤ 2 ^ 63 - 1 →
      assign (shown order ⟨.kind .duration, v⟩) ⟨.kind .duration, w⟩ = .ok ⟨.kind .duration, v⟩) :=
  ⟨fun _ v => assign_render_of_read (Kind.readInt_intText v),
    fun v => assign_render_of_read (Kind.read_render_bool v),
    fun _ w h => assign_render_of_read (Kind.read_render_duration h) w⟩

/-- The longest duration that is read, put by its text into a leaf that holds the longest of all. -/
theorem assign_render_longest :
    let longestRead : Duration := ⟨9223372036854775807, by decide⟩
    let longest : Duration := ⟨18446744073709551615999999999, by decide⟩
    render ⟨.kind .duration, longestRead⟩ = "9223372036.854775807s" ∧
      assign "9223372036.854775807s" ⟨.kind .duration, longest⟩ =
        .ok ⟨.kind .duration, longestRead⟩ := by
  intro longestRead longest
  have hshown : render ⟨.kind .duration, longestRead⟩ = "9223372036.854775807s" := by decide +kernel
  refine ⟨hshown, ?_⟩
  rw [← hshown]
  exact (assign_render .byText).2.2 longestRead longest (by decide)

end Leaf

end ConfigBinding
