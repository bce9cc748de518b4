import Mathlib.Data.Nat.Digits.Defs
import ConfigBinding.Numeral
import ConfigBinding.Proofs.Text.Offsets

/-!
# Digits of a base

A digit of a base up to 16 is a numeral or a letter up to `f`, in either case (`IsDigit`), and a run
of digits stands for its positional value (`positional`).

* `digitOf?_eq_some_iff`: the look-up of a character finds exactly the digits.
* `readDigits_eq_ok_iff`, `readDigits_eq_tooLarge_iff`: adding up a run ends with its value, or
  stops where the digits read so far have passed the limit, whatever stands behind them.
-/

set_option autoImplicit false

namespace ConfigBinding.Numeral

/-! ## Single digits -/

/-- `c` is the digit `d` of a base, as a numeral or as a letter in either case. -/
def IsDigit (base : Nat) (c : Char) (d : Nat) : Prop :=
  d < base ∧ (c = Nat.digitChar d ∨ c = (Nat.digitChar d).toUpper)

instance (base : Nat) (c : Char) (d : Nat) : Decidable (IsDigit base c d) :=
  inferInstanceAs (Decidable (_ ∧ _))

theorem toNat_le_of_isLower {c : Char} (h : c.isLower = true) : c.toNat ≤ 'z'.toNat := by
  have h : (c.val ≥ 'a'.val && c.val ≤ 'z'.val) = true := h
  simp only [Bool.and_eq_true, decide_eq_true_eq] at h
  exact h.2

theorem toNat_le_of_isUpper {c : Char} (h : c.isUpper = true) : c.toNat ≤ 'Z'.toNat :=
  (of_decide_eq_true h : c.val ≥ 'A'.val ∧ c.val ≤ 'Z'.val).2

theorem toNat_lt_of_digitOf? {base : Nat} {c : Char} {d : Nat} (h : digitOf? base c = some d) :
    c.toNat < 128 := by
  have hsome := (Option.filter_eq_some_iff.mp h).1
  by_contra hlt
  have hnumeral : ¬ c.isDigit = true := fun hc => hlt (Text.lt_of_isDigit hc)
  have hlower : ¬ c.isLower = true := fun hc =>
    hlt (Nat.lt_of_le_of_lt (toNat_le_of_isLower hc) (by decide))
  have hupper : ¬ c.isUpper = true := fun hc =>
    hlt (Nat.lt_of_le_of_lt (toNat_le_of_isUpper hc) (by decide))
  rw [if_neg hnumeral, if_neg hlower, if_neg hupper] at hsome
  cases hsome

theorem toNat_digitChar_lt : ∀ d < 16, (Nat.digitChar d).toNat < 128 ∧
    (Nat.digitChar d).toUpper.toNat < 128 := by
  decide

theorem toNat_lt_of_isDigit {c : Char} {d : Nat} (h : IsDigit 16 c d) : c.toNat < 128 := by
  obtain ⟨hd, h⟩ := h
  obtain ⟨hlower, hupper⟩ := toNat_digitChar_lt d hd
  rcases h with rfl | rfl
  · exact hlower
  · exact hupper

theorem digitOf?_ascii : ∀ n < 128, ∀ d < 16,
    digitOf? 16 (Char.ofNat n) = some d ↔ IsDigit 16 (Char.ofNat n) d := by
  decide +kernel

theorem digitOf?_sixteen_iff {c : Char} {d : Nat} : digitOf? 16 c = some d ↔ IsDigit 16 c d := by
  constructor
  · intro h
    have hd : d < 16 := by simpa using (Option.filter_eq_some_iff.mp h).2
    have hascii := digitOf?_ascii c.toNat (toNat_lt_of_digitOf? h) d hd
    rw [Char.ofNat_toNat] at hascii
    exact hascii.mp h
  · intro h
    have hascii := digitOf?_ascii c.toNat (toNat_lt_of_isDigit h) d h.1
    rw [Char.ofNat_toNat] at hascii
    exact hascii.mpr h

/-- The look-up of a character as a digit finds the digits of the base. -/
theorem digitOf?_eq_some_iff {base : Nat} (hbase : base ≤ 16) {c : Char} {d : Nat} :
    digitOf? base c = some d ↔ IsDigit base c d := by
  have hbelow : ∀ b, digitOf? b c = some d ↔ _ ∧ d < b := fun b =>
    Option.filter_eq_some_iff.trans (and_congr_right fun _ => decide_eq_true_iff)
  have hfilter : digitOf? base c = some d ↔ digitOf? 16 c = some d ∧ d < base := by
    rw [hbelow base, hbelow 16, and_assoc]
    exact and_congr_right fun _ => ⟨fun h => ⟨by omega, h⟩, fun h => h.2⟩
  rw [hfilter, digitOf?_sixteen_iff]
  constructor
  · rintro ⟨⟨-, hc⟩, hd⟩
    exact ⟨hd, hc⟩
  · rintro ⟨hd, hc⟩
    exact ⟨⟨by omega, hc⟩, hd⟩

theorem IsDigit.unique {base : Nat} (hbase : base ≤ 16) {c : Char} {d d' : Nat}
    (h : IsDigit base c d) (h' : IsDigit base c d') : d = d' := by
  rw [← digitOf?_eq_some_iff hbase] at h h'
  exact Option.some.inj (h.symm.trans h')

/-! ## Runs of digits -/

/-- The characters `ks` are the digits `ds` of a base. -/
abbrev Digits (base : Nat) : List Char → List Nat → Prop :=
  List.Forall₂ (IsDigit base)

/-- The number that digits stand for, the most significant first. -/
def positional (base : Nat) (ds : List Nat) : Nat :=
  Nat.ofDigits base ds.reverse

/-- The number that stands for `total` followed by further digits. -/
def accumulate (base total : Nat) (ds : List Nat) : Nat :=
  ds.foldl (fun n d => base * n + d) total

theorem accumulate_zero (base : Nat) (ds : List Nat) :
    accumulate base 0 ds = positional base ds := by
  unfold accumulate positional
  rw [Nat.ofDigits_eq_foldr, List.foldr_reverse]
  congr 1
  funext n d
  simp [Nat.add_comm]

theorem le_accumulate {base : Nat} (hbase : 0 < base) (total : Nat) (ds : List Nat) :
    total ≤ accumulate base total ds := by
  induction ds generalizing total with
  | nil => exact Nat.le_refl total
  | cons d ds ih =>
    calc total ≤ base * total := Nat.le_mul_of_pos_left total hbase
      _ ≤ base * total + d := Nat.le_add_right _ d
      _ ≤ accumulate base (base * total + d) ds := ih _

/-- Separators make no difference to the sum. -/
theorem readDigits_filter (base total : Nat) (cs : List Char) :
    readDigits base total cs = readDigits base total (cs.filter (· ≠ '_')) := by
  induction cs generalizing total with
  | nil => rfl
  | cons c cs ih =>
    by_cases hc : c = '_'
    · simp [readDigits, hc, ih]
    · simp only [readDigits, hc, ↓reduceIte, ih, ne_eq, not_false_eq_true, decide_true,
        List.filter_cons_of_pos]

section
variable {base : Nat} (hbase : base ≤ 16)
include hbase

theorem digits_cons_iff {c : Char} {d : Nat} (hd : digitOf? base c = some d) {ks : List Char}
    {ds : List Nat} : Digits base (c :: ks) ds ↔ ∃ rest, ds = d :: rest ∧ Digits base ks rest := by
  have hdigit := (digitOf?_eq_some_iff hbase).mp hd
  constructor
  · intro h
    cases h with
    | cons hc hrest => exact ⟨_, by rw [hc.unique hbase hdigit], hrest⟩
  · rintro ⟨rest, rfl, hrest⟩
    exact .cons hdigit hrest

theorem not_digits_cons {c : Char} (hd : digitOf? base c = none) {ks : List Char} {ds : List Nat} :
    ¬ Digits base (c :: ks) ds := by
  intro h
  cases h with
  | cons hc hrest =>
    rw [(digitOf?_eq_some_iff hbase).mpr hc] at hd
    cases hd

theorem Digits.digitOf?_ne_none {ks : List Char} {ds : List Nat} (h : Digits base ks ds) {c : Char}
    (hc : c ∈ ks) : digitOf? base c ≠ none := by
  induction h with
  | nil => cases hc
  | cons hdigit _ ih =>
    rcases List.mem_cons.mp hc with rfl | hc
    · rw [(digitOf?_eq_some_iff hbase).mpr hdigit]
      nofun
    · exact ih hc

variable {ks : List Char} (hks : '_' ∉ ks)
include hks

/-- A run is added up to a number if it consists of digits and the number is within the limit. -/
theorem readDigits_eq_ok_iff (hpos : 0 < base) {total : Nat} (htotal : total ≤ maxMagnitude)
    {n : Nat} :
    readDigits base total ks = .ok n ↔
      ∃ ds, Digits base ks ds ∧ n = accumulate base total ds ∧ n ≤ maxMagnitude := by
  induction ks generalizing total with
  | nil =>
    constructor
    · intro h
      obtain rfl := Except.ok.inj h
      exact ⟨[], .nil, rfl, htotal⟩
    · rintro ⟨ds, hds, rfl, -⟩
      cases hds
      rfl
  | cons c ks ih =>
    have hc := List.ne_of_not_mem_cons hks
    have hks := List.not_mem_of_not_mem_cons hks
    rw [readDigits, if_neg (Ne.symm hc)]
    cases hd : digitOf? base c with
    | none =>
      refine ⟨nofun, ?_⟩
      rintro ⟨ds, hds, -⟩
      exact absurd hds (not_digits_cons hbase hd)
    | some d =>
      simp only [digits_cons_iff hbase hd]
      by_cases hle : base * total + d ≤ maxMagnitude
      · rw [if_pos hle, ih hks hle]
        constructor
        · rintro ⟨ds, hds, hn, hmax⟩
          exact ⟨d :: ds, ⟨ds, rfl, hds⟩, hn, hmax⟩
        · rintro ⟨_, ⟨ds, rfl, hds⟩, hn, hmax⟩
          exact ⟨ds, hds, hn, hmax⟩
      · rw [if_neg hle]
        refine ⟨nofun, ?_⟩
        -- What is above the limit once stays above it.
        rintro ⟨_, ⟨ds, rfl, -⟩, rfl, hmax⟩
        exact absurd (Nat.le_trans (le_accumulate hpos _ ds) hmax) hle

/-- A run is too large as soon as digits at its front are, whether or not digits follow them. -/
theorem readDigits_eq_tooLarge_iff {total : Nat} (htotal : total ≤ maxMagnitude) :
    readDigits base total ks = .error .tooLarge ↔
      ∃ front rest ds, ks = front ++ rest ∧ Digits base front ds ∧
        maxMagnitude < accumulate base total ds := by
  induction ks generalizing total with
  | nil =>
    refine ⟨nofun, ?_⟩
    rintro ⟨front, rest, ds, hsplit, hds, hmax⟩
    obtain ⟨rfl, -⟩ := List.append_eq_nil_iff.mp hsplit.symm
    cases hds
    exact absurd htotal (Nat.not_le_of_lt hmax)
  | cons c ks ih =>
    have hc := List.ne_of_not_mem_cons hks
    have hks := List.not_mem_of_not_mem_cons hks
    rw [readDigits, if_neg (Ne.symm hc)]
    constructor
    · intro h
      cases hd : digitOf? base c with
      | none => rw [hd] at h; cases h
      | some d =>
        rw [hd] at h
        by_cases hle : base * total + d ≤ maxMagnitude
        · simp only [hle, ↓reduceIte] at h
          obtain ⟨front, rest, ds, hsplit, hds, hmax⟩ := (ih hks hle).mp h
          exact ⟨c :: front, rest, d :: ds, by rw [hsplit, List.cons_append],
            (digits_cons_iff hbase hd).mpr ⟨ds, rfl, hds⟩, hmax⟩
        · exact ⟨[c], ks, [d], rfl, (digits_cons_iff hbase hd).mpr ⟨[], rfl, .nil⟩,
            Nat.lt_of_not_le hle⟩
    · rintro ⟨front, rest, ds, hsplit, hds, hmax⟩
      cases hds with
      | nil => exact absurd htotal (Nat.not_le_of_lt hmax)
      | @cons c' d front ds hdigit hds =>
        obtain ⟨rfl, htail⟩ := List.cons.inj hsplit
        rw [(digitOf?_eq_some_iff hbase).mpr hdigit]
        by_cases hle : base * total + d ≤ maxMagnitude
        · simp only [hle, ↓reduceIte]
          exact (ih hks hle).mpr ⟨front, rest, ds, htail, hds, hmax⟩
        · simp only [hle, ↓reduceIte]

end

/-! ## Writing digits -/

theorem toLower_of_not_ascii {c : Char} (h : ¬ c.toNat < 128) : c.toLower = c := by
  unfold Char.toLower
  rw [dif_neg]
  rintro ⟨-, hle⟩
  exact h (Nat.lt_of_le_of_lt hle (by decide))

theorem isDigit_of_toLower_ascii : ∀ n < 128, ∀ d < 16,
    (Char.ofNat n).toLower = Nat.digitChar d → IsDigit 16 (Char.ofNat n) d := by
  decide +kernel

theorem isDigit_of_toLower {base : Nat} (hbase : base ≤ 16) {c : Char} {d : Nat} (hd : d < base)
    (h : c.toLower = Nat.digitChar d) : IsDigit base c d := by
  have hd16 : d < 16 := by omega
  by_cases hc : c.toNat < 128
  · have hascii := isDigit_of_toLower_ascii c.toNat hc d hd16
    rw [Char.ofNat_toNat] at hascii
    exact ⟨hd, (hascii h).2⟩
  · -- Beyond ASCII no character is a digit.
    rw [toLower_of_not_ascii hc] at h
    exact absurd (h ▸ (toNat_digitChar_lt d hd16).1) hc

theorem positional_append (base : Nat) (ds : List Nat) (d : Nat) :
    positional base (ds ++ [d]) = base * positional base ds + d := by
  simp [positional, Nat.ofDigits_cons, Nat.add_comm]

/-- The written digits of a number stand for it, and start with a zero for zero only. -/
theorem toDigits_spec {base : Nat} (hbase : 1 < base) (n : Nat) :
    ∃ ds, Nat.toDigits base n = ds.map Nat.digitChar ∧ (∀ d ∈ ds, d < base) ∧
      positional base ds = n ∧ (n ≠ 0 → ∃ d rest, ds = d :: rest ∧ d ≠ 0) := by
  induction n using Nat.strong_induction_on with
  | _ n ih =>
    by_cases hn : n < base
    · refine ⟨[n], by rw [Nat.toDigits_of_lt_base hn]; rfl, by simpa using hn, ?_, fun h => ?_⟩
      · simp [positional]
      · exact ⟨n, [], rfl, h⟩
    · have hpos : 0 < n / base := Nat.div_pos (by omega) (by omega)
      obtain ⟨ds, htext, hlt, hvalue, hhead⟩ := ih (n / base) (Nat.div_lt_self (by omega) hbase)
      obtain ⟨d, rest, rfl, hd⟩ := hhead (by omega)
      refine ⟨(d :: rest) ++ [n % base], ?_, ?_, ?_, fun _ => ⟨d, rest ++ [n % base], rfl, hd⟩⟩
      · rw [Nat.toDigits_of_base_le hbase (by omega), htext, List.map_append]
        rfl
      · intro x hx
        rcases List.mem_append.mp hx with hx | hx
        · exact hlt x hx
        · rw [List.mem_singleton.mp hx]
          exact Nat.mod_lt n (by omega)
      · rw [positional_append, hvalue]
        exact Nat.div_add_mod n base

/-- A text is digits of a number if its lower-case form is what the number is written as. -/
theorem digits_of_toLower {base : Nat} (hbase : base ≤ 16) {ks : List Char} {ds : List Nat}
    (hlt : ∀ d ∈ ds, d < base) (h : ks.map Char.toLower = ds.map Nat.digitChar) :
    Digits base ks ds := by
  induction ks generalizing ds with
  | nil =>
    cases ds with
    | nil => exact .nil
    | cons d ds => cases h
  | cons c ks ih =>
    cases ds with
    | nil => cases h
    | cons d ds =>
      obtain ⟨hc, hks⟩ := List.cons.inj h
      obtain ⟨hd, hds⟩ := List.forall_mem_cons.mp hlt
      exact .cons (isDigit_of_toLower hbase hd hc) (ih hds hks)

end ConfigBinding.Numeral
