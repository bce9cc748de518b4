import ConfigBinding.Kind.Basic
import ConfigBinding.Proofs.Decimal.Digits
import ConfigBinding.Proofs.Text.Printable

/-!
# Shown values are printable

Whatever a value of a kind holds, the text that shows it has no unprintable character
(`Kind.printable_render`). Texts and paths are shown as quotes, numbers and durations by digits, and
what surrounds the parts of an option, a list or a map is printable.
-/

set_option autoImplicit false

namespace ConfigBinding

open Text

/-! ## Numbers -/

namespace Decimal

theorem printable_digits (n : Nat) : Printable (digits n) :=
  printable_toDigits (by decide) (by decide) n

theorem printable_intText (n : Int) : Printable (intText n).toList := by
  cases n with
  | ofNat n =>
    rw [intText, natText, String.toList_ofList]
    exact printable_digits n
  | negSucc n =>
    rw [intText, String.toList_ofList]
    exact printable_cons.mpr ⟨by decide, printable_digits (n + 1)⟩

theorem printable_positional {ds : List Char} (h : Printable ds) (point : Int) :
    Printable (positional ds point) := by
  have hzero : ∀ n, Printable (List.replicate n '0') := printable_replicate (by decide)
  have hpoint : isUnprintable '.' = false := by decide
  simp only [positional]
  split_ifs
  · exact printable_cons.mpr ⟨by decide, printable_cons.mpr ⟨hpoint,
      printable_append.mpr ⟨hzero _, h⟩⟩⟩
  · exact printable_append.mpr ⟨printable_append.mpr ⟨h, hzero _⟩, by decide⟩
  · exact printable_append.mpr ⟨h.of_subset (List.take_subset _ _),
      printable_cons.mpr ⟨hpoint, h.of_subset (List.drop_subset _ _)⟩⟩

theorem printable_scientific {ds : List Char} (h : Printable ds) (point : Int) :
    Printable (scientific ds point) := by
  have hfraction : Printable (if ds.length ≤ 1 then [] else '.' :: ds.drop 1) := by
    split_ifs
    · exact printable_nil
    · exact printable_cons.mpr ⟨by decide, h.of_subset (List.drop_subset _ _)⟩
  exact printable_append.mpr ⟨printable_append.mpr ⟨h.of_subset (List.take_subset _ _), hfraction⟩,
    printable_cons.mpr ⟨by decide, printable_intText _⟩⟩

theorem printable_magnitude (style : FloatStyle) (f : BinaryFormat) (mantissa : Nat)
    (exponent : Int) : Printable (style.magnitude f mantissa exponent) := by
  simp only [FloatStyle.magnitude]
  split_ifs
  · decide
  · exact printable_positional (printable_digits _) _
  · exact printable_scientific (printable_digits _) _

theorem printable_render {style : FloatStyle} (hinf : Printable style.infinity.toList)
    (hnan : Printable style.nan.toList) (f : BinaryFormat) (v : BinaryFloat) :
    Printable (style.render f v).toList := by
  have hsign : ∀ negative : Bool, Printable (if negative then "-" else "").toList := by decide
  cases v with
  | nan => exact hnan
  | infinite negative =>
    rw [FloatStyle.render, String.toList_append]
    exact printable_append.mpr ⟨hsign negative, hinf⟩
  | finite negative mantissa exponent =>
    rw [FloatStyle.render, String.toList_append, String.toList_ofList]
    exact printable_append.mpr ⟨hsign negative, printable_magnitude style f mantissa exponent⟩

end Decimal

namespace Duration

theorem printable_dropZerosEnd_paddedDigits (width n : Nat) :
    Printable (Decimal.dropZerosEnd (Decimal.paddedDigits width n)) := by
  obtain ⟨es, hpadded, hes, -, -⟩ := Decimal.paddedDigits_spec width n
  obtain ⟨front, zeros, hsplit, hfront⟩ := Decimal.dropZerosEnd_map_digitChar hes
  rw [hpadded, hfront]
  refine printable_map_digitChar fun d hd => ?_
  have hlt := hes d (by rw [hsplit]; exact List.mem_append_left _ hd)
  omega

theorem printable_decimalText (places n : Nat) {unit : String} (hunit : Printable unit.toList) :
    Printable (decimalText places n unit).toList := by
  have hfraction := printable_dropZerosEnd_paddedDigits places (n % Nat.pow 10 places)
  rw [decimalText, String.toList_append, String.toList_ofList]
  refine printable_append.mpr ⟨printable_append.mpr ⟨Decimal.printable_digits _, ?_⟩, hunit⟩
  split_ifs
  · exact printable_nil
  · exact printable_cons.mpr ⟨by decide, hfraction⟩

theorem printable_render (d : Duration) : Printable d.render.toList := by
  have hmicro : Printable "µs".toList := by decide +kernel
  unfold render
  split_ifs
  · exact printable_decimalText _ _ (by decide)
  · exact printable_decimalText _ _ (by decide)
  · exact printable_decimalText _ _ hmicro
  · exact printable_decimalText _ _ (by decide)

end Duration

/-! ## Kinds -/

namespace Kind

theorem printable_bracketed {left right : Char} (hleft : isUnprintable left = false)
    (hright : isUnprintable right = false) {parts : List String}
    (h : ∀ p ∈ parts, Printable p.toList) : Printable (bracketed left right parts).toList := by
  have hparts : Printable (join ", " parts).toList := printable_join (by decide) h
  rw [bracketed, String.toList_append, String.toList_append]
  refine printable_append.mpr ⟨printable_append.mpr ⟨?_, hparts⟩, ?_⟩
  · simpa using hleft
  · simpa using hright

/-- The entries of a map are shown by printable texts if their parts are. -/
theorem printable_renderEntries {α β : Type} {renderKey : Nat → α → String}
    {renderValue : Nat → β → String} (hkey : ∀ i a, Printable (renderKey i a).toList)
    (hvalue : ∀ i b, Printable (renderValue i b).toList) (entries : List (α × β)) :
    ∀ p ∈ renderEntries renderKey renderValue entries, Printable p.toList := by
  intro p hp
  obtain ⟨i, hi, rfl⟩ := List.mem_mapIdx.mp hp
  rw [String.toList_append, String.toList_append]
  exact printable_append.mpr ⟨printable_append.mpr ⟨hkey i _, by decide⟩, hvalue i _⟩

/-- The text that shows a value is printable whatever the order of hashed maps, by induction on the
kind. -/
theorem printable_render (k : Kind) (order : EntryOrder) (v : k.Carrier) :
    Printable (k.render order v).toList := by
  induction k generalizing order with
  | text => exact printable_quote v
  | path => exact printable_quote (Path.text v)
  | bool =>
    have htruth : ∀ b, Printable (ofTruth b).toList := by decide
    exact htruth v
  | int t => exact Decimal.printable_intText _
  | float t => exact Decimal.printable_render (by decide) (by decide) t.format v
  | duration => exact Duration.printable_render v
  | code =>
    have htitle : ∀ c : StatusCode, Printable c.title.toList := fun c => by cases c <;> decide
    exact htitle v
  | level =>
    have htitle : ∀ l : LogLevel, Printable ("Level(" ++ l.title ++ ")").toList :=
      fun l => by cases l <;> decide
    exact htitle v
  | option k ih =>
    cases v with
    | none => exact (by decide : Printable "None".toList)
    | some x =>
      show Printable ("Some(" ++ k.render order x ++ ")").toList
      rw [String.toList_append, String.toList_append]
      exact printable_append.mpr ⟨printable_append.mpr ⟨by decide, ih order x⟩, by decide⟩
  | list k ih =>
    refine printable_bracketed (by decide) (by decide) fun p hp => ?_
    obtain ⟨i, hi, rfl⟩ := List.mem_mapIdx.mp hp
    exact ih _ _
  | hashMap key value ihKey ihValue =>
    refine printable_bracketed (by decide) (by decide) fun p hp => ?_
    exact printable_renderEntries (fun _ => ihKey _) (fun _ => ihValue _) v p
      ((order.arrange_perm _ _).mem_iff.mp hp)
  | treeMap key value ihKey ihValue =>
    exact printable_bracketed (by decide) (by decide)
      (printable_renderEntries (fun _ => ihKey _) (fun _ => ihValue _) v)

end Kind

end ConfigBinding
