import Mathlib.Algebra.Order.Floor.Semifield
import Mathlib.Data.List.TakeWhile
import Mathlib.Data.Rat.Floor
import ConfigBinding.Duration
import ConfigBinding.Proofs.Numeral.Digits

/-!
# The terms of a duration

A term is digits, with a point and a fraction if need be, and a unit (`IsTerm`); a fraction adds
what is left of its share of the unit when it is rounded down, where only the first digits of the
fraction count (`amount`). The scanner goes over a text in three runs: digits, fraction digits, and
what lies before the next digit or point. Each of them ends where the next part of the term starts
(`Stops`), so that what is scanned is the term that was written (`scan_of_isTerm`), and nothing else
(`isTerm_of_scan`).
-/

set_option autoImplicit false

namespace ConfigBinding.Duration

open Numeral

/-! ## Written terms -/

/-- The units and the nanoseconds in one of each; the micro sign and the letter mu are two
characters. -/
def units : List (String × Nat) :=
  [("ns", 1), ("us", 1000), ("µs", 1000), ("μs", 1000), ("ms", 1000000), ("s", 1000000000),
    ("m", 60000000000), ("h", 3600000000000)]

/-- The part of one that fraction digits stand for. -/
def fractional (es : List Nat) : ℚ :=
  positional 10 es / 10 ^ es.length

/-- The nanoseconds of whole and fraction digits in a unit: the first 18 fraction digits count, and
what they add is rounded down. -/
def amount (scale : Nat) (ds es : List Nat) : Nat :=
  positional 10 ds * scale + ⌊scale * fractional (es.take 18)⌋₊

/-- A term and the nanoseconds that it adds: digits, a fraction behind a point if there is one, and
a unit, with one digit at least. -/
inductive IsTerm : List Char → Nat → Prop
  | whole {ks : List Char} {ds : List Nat} {unit : String} {scale : Nat} : ks ≠ [] →
      Digits 10 ks ds → (unit, scale) ∈ units → IsTerm (ks ++ unit.toList) (amount scale ds [])
  | pointed {ks fs : List Char} {ds es : List Nat} {unit : String} {scale : Nat} :
      ks ≠ [] ∨ fs ≠ [] → Digits 10 ks ds → Digits 10 fs es → (unit, scale) ∈ units →
      IsTerm (ks ++ '.' :: (fs ++ unit.toList)) (amount scale ds es)

/-! ## Decimal digits -/

theorem digitChar_spec : ∀ d < 10, (Nat.digitChar d).toUpper = Nat.digitChar d ∧
    (Nat.digitChar d).isDigit = true ∧ Decimal.digitValue (Nat.digitChar d) = d := by
  decide

theorem isDigit_ten_iff {c : Char} {d : Nat} :
    IsDigit 10 c d ↔ c.isDigit = true ∧ Decimal.digitValue c = d := by
  constructor
  · rintro ⟨hd, h⟩
    obtain ⟨hupper, hdigit⟩ := digitChar_spec d hd
    rw [hupper, or_self] at h
    rwa [h]
  · rintro ⟨hc, rfl⟩
    rw [← digitOf?_eq_some_iff (by decide)]
    have hle := Text.toNat_le_of_isDigit hc
    have hlt : Decimal.digitValue c < 10 := by
      show c.toNat - 48 < 10
      have : '9'.toNat = 57 := rfl
      omega
    unfold digitOf?
    rw [if_pos hc]
    exact Option.filter_eq_some_iff.mpr ⟨rfl, by simpa using hlt⟩

theorem digits_ten_iff {ks : List Char} {ds : List Nat} :
    Digits 10 ks ds ↔ (∀ c ∈ ks, c.isDigit = true) ∧ ks.map Decimal.digitValue = ds := by
  induction ks generalizing ds with
  | nil => cases ds <;> simp
  | cons c ks ih =>
    cases ds with
    | nil => simp
    | cons d ds => simp [isDigit_ten_iff, ih, and_assoc, and_left_comm]

theorem value_eq_positional (ks : List Char) :
    Decimal.value ks = positional 10 (ks.map Decimal.digitValue) := by
  rw [← accumulate_zero, accumulate, List.foldl_map]
  rfl

/-- Digits stand for less than the power of their number. -/
theorem positional_lt {ds : List Nat} (h : ∀ d ∈ ds, d < 10) :
    positional 10 ds < 10 ^ ds.length := by
  have hreverse : ∀ d ∈ ds.reverse, d < 10 := by simpa using h
  have hlt := Nat.ofDigits_lt_base_pow_length (by decide : 1 < 10) hreverse
  rwa [List.length_reverse] at hlt

/-- The scanner's nanoseconds for a term are those that its digits stand for. -/
theorem termNanos_eq (scale : Nat) (ks fs : List Char) :
    termNanos scale ks fs =
      amount scale (ks.map Decimal.digitValue) (fs.map Decimal.digitValue) := by
  have hfloor : ∀ m n : Nat, ⌊(scale : ℚ) * (m / 10 ^ n)⌋₊ = m * scale / 10 ^ n := by
    intro m n
    rw [← Nat.floor_div_eq_div (K := ℚ)]
    congr 1
    push_cast
    ring
  unfold termNanos amount fractional
  rw [← List.map_take, List.length_map, ← value_eq_positional, ← value_eq_positional, hfloor]
  rfl

/-! ## Units -/

theorem unitNanos?_of_mem : ∀ p ∈ units, unitNanos? p.1.toList = some p.2 := by
  decide

theorem mem_units_of_unitNanos? {unit : List Char} {scale : Nat}
    (h : unitNanos? unit = some scale) : (String.ofList unit, scale) ∈ units := by
  unfold unitNanos? at h
  split_ifs at h with hnano hmicro hmilli hsecond hminute hhour <;>
    obtain rfl := Option.some.inj h
  · rw [hnano]; decide
  · rcases hmicro with rfl | rfl | rfl <;> decide
  · rw [hmilli]; decide
  · rw [hsecond]; decide
  · rw [hminute]; decide
  · rw [hhour]; decide

theorem isUnitChar_of_mem_units : ∀ p ∈ units, p.1.toList ≠ [] ∧
    ∀ c ∈ p.1.toList, isUnitChar c = true := by
  simp only [← List.all_eq_true]
  decide

/-! ## Runs of characters -/

/-- Whether a text starts with no character of a class. -/
def Stops (p : Char → Bool) (cs : List Char) : Prop :=
  ∀ c ∈ cs.head?, p c = false

theorem Stops.nil (p : Char → Bool) : Stops p [] := by
  intro c hc
  cases hc

theorem stops_cons_iff {p : Char → Bool} {c : Char} {cs : List Char} :
    Stops p (c :: cs) ↔ p c = false := by
  simp [Stops]

section
variable {p : Char → Bool} {run rest : List Char} (hrun : ∀ c ∈ run, p c = true)
  (hrest : Stops p rest)
include hrun hrest

theorem takeWhile_append_of_stops : (run ++ rest).takeWhile p = run := by
  rw [List.takeWhile_append_of_pos hrun]
  cases rest with
  | nil => simp
  | cons c rest => simp [stops_cons_iff.mp hrest]

theorem dropWhile_append_of_stops : (run ++ rest).dropWhile p = rest := by
  rw [List.dropWhile_append_of_pos hrun]
  cases rest with
  | nil => rfl
  | cons c rest => simp [stops_cons_iff.mp hrest]

end

/-! ## Scanning -/

section
variable {ks fs tail : List Char} (hks : ∀ c ∈ ks, c.isDigit = true)
include hks

theorem splitPoint_point (hfs : ∀ c ∈ fs, c.isDigit = true) (htail : Stops Char.isDigit tail) :
    Decimal.splitPoint (ks ++ '.' :: (fs ++ tail)) = (ks, fs, tail) := by
  have hpoint : Stops Char.isDigit ('.' :: (fs ++ tail)) := stops_cons_iff.mpr rfl
  simp only [Decimal.splitPoint, takeWhile_append_of_stops hks hpoint,
    dropWhile_append_of_stops hks hpoint, takeWhile_append_of_stops hfs htail,
    dropWhile_append_of_stops hfs htail]

theorem splitPoint_plain (htail : Stops Char.isDigit tail) (hpoint : tail.head? ≠ some '.') :
    Decimal.splitPoint (ks ++ tail) = (ks, [], tail) := by
  simp only [Decimal.splitPoint, takeWhile_append_of_stops hks htail,
    dropWhile_append_of_stops hks htail]
  split
  · exact absurd rfl hpoint
  · rfl

end

/-- A text is split at its point, if one follows its digits. -/
theorem splitPoint_cases (cs : List Char) :
    ∃ ks fs tail, Decimal.splitPoint cs = (ks, fs, tail) ∧ (∀ c ∈ ks, c.isDigit = true) ∧
      (∀ c ∈ fs, c.isDigit = true) ∧
      (cs = ks ++ '.' :: (fs ++ tail) ∨ fs = [] ∧ cs = ks ++ tail) := by
  have hks : ∀ c ∈ cs.takeWhile Char.isDigit, c.isDigit = true := fun c => List.mem_takeWhile_imp
  have hcs : cs.takeWhile Char.isDigit ++ cs.dropWhile Char.isDigit = cs :=
    List.takeWhile_append_dropWhile
  unfold Decimal.splitPoint
  split
  · rename_i rest heq
    refine ⟨_, _, _, rfl, hks, fun c => List.mem_takeWhile_imp, .inl ?_⟩
    rw [List.takeWhile_append_dropWhile, ← heq, hcs]
  · exact ⟨_, _, _, rfl, hks, nofun, .inr ⟨rfl, hcs.symm⟩⟩

theorem isUnitChar_iff {c : Char} : isUnitChar c = true ↔ c ≠ '.' ∧ c.isDigit = false := by
  simp [isUnitChar]

/-- A unit ends the digits before it and is no point. -/
theorem stops_unit {unit : String} {scale : Nat} (h : (unit, scale) ∈ units) (rest : List Char) :
    Stops Char.isDigit (unit.toList ++ rest) ∧ (unit.toList ++ rest).head? ≠ some '.' := by
  obtain ⟨hne, hchars⟩ := isUnitChar_of_mem_units _ h
  obtain ⟨c, cs, hunit⟩ := List.exists_cons_of_ne_nil hne
  obtain ⟨hpoint, hdigit⟩ := isUnitChar_iff.mp (hchars c (by rw [hunit]; exact List.mem_cons_self))
  rw [hunit]
  exact ⟨stops_cons_iff.mpr hdigit, by simpa using hpoint⟩

theorem splitTerm_of_splitPoint {cs ks fs rest : List Char} {unit : String} {scale : Nat}
    (h : Decimal.splitPoint cs = (ks, fs, unit.toList ++ rest)) (hdigits : ks ≠ [] ∨ fs ≠ [])
    (hunit : (unit, scale) ∈ units) (hrest : Stops isUnitChar rest) :
    splitTerm cs = .ok (⟨ks, fs, unit.toList⟩, rest) := by
  obtain ⟨hne, hchars⟩ := isUnitChar_of_mem_units _ hunit
  have hsome : (ks.isEmpty && fs.isEmpty) = false := by
    rcases hdigits with hks | hfs
    · simp [hks]
    · simp [hfs]
  simp [splitTerm, h, hsome, takeWhile_append_of_stops hchars hrest,
    dropWhile_append_of_stops hchars hrest, hne]

/-- A term in front of a digit, a point or nothing is scanned as it is written. -/
theorem scan_of_isTerm {text rest : List Char} {n : Nat} (h : IsTerm text n)
    (hrest : Stops isUnitChar rest) :
    ∃ term scale, splitTerm (text ++ rest) = .ok (term, rest) ∧
      unitNanos? term.unit = some scale ∧ termNanos scale term.whole term.fraction = n := by
  cases h with
  | @whole ks ds unit scale hne hks hunit =>
    obtain ⟨hdigits, rfl⟩ := digits_ten_iff.mp hks
    obtain ⟨hstop, hpoint⟩ := stops_unit hunit rest
    have hsplit := splitPoint_plain hdigits hstop hpoint
    rw [List.append_assoc]
    exact ⟨_, scale, splitTerm_of_splitPoint hsplit (.inl hne) hunit hrest,
      unitNanos?_of_mem _ hunit, termNanos_eq scale ks []⟩
  | @pointed ks fs ds es unit scale hne hks hfs hunit =>
    obtain ⟨hdigits, rfl⟩ := digits_ten_iff.mp hks
    obtain ⟨hfraction, rfl⟩ := digits_ten_iff.mp hfs
    obtain ⟨hstop, -⟩ := stops_unit hunit rest
    have hsplit := splitPoint_point hdigits hfraction hstop
    rw [List.append_assoc, List.cons_append, List.append_assoc]
    exact ⟨_, scale, splitTerm_of_splitPoint hsplit hne hunit hrest,
      unitNanos?_of_mem _ hunit, termNanos_eq scale ks fs⟩

/-- What is scanned as a term has a digit, and a unit behind its digits, known or not. -/
theorem splitTerm_cases {cs rest : List Char} {term : Term} (h : splitTerm cs = .ok (term, rest)) :
    (term.whole ≠ [] ∨ term.fraction ≠ []) ∧ term.unit ≠ [] ∧
      (∀ c ∈ term.whole, c.isDigit = true) ∧ (∀ c ∈ term.fraction, c.isDigit = true) ∧
      (cs = term.whole ++ '.' :: (term.fraction ++ (term.unit ++ rest)) ∨
        term.fraction = [] ∧ cs = term.whole ++ (term.unit ++ rest)) := by
  obtain ⟨ks, fs, tail, hsplit, hks, hfs, hcs⟩ := splitPoint_cases cs
  simp only [splitTerm, hsplit] at h
  split_ifs at h with hempty hunit
  obtain ⟨rfl, rfl⟩ := Prod.mk.inj (Except.ok.inj h)
  have hne : ks ≠ [] ∨ fs ≠ [] := by simpa [← not_and_or] using hempty
  have hunit : tail.takeWhile isUnitChar ≠ [] := by simpa using hunit
  refine ⟨hne, hunit, hks, hfs, ?_⟩
  dsimp only
  rwa [List.takeWhile_append_dropWhile]

/-- What is scanned as a term with a known unit is one, in front of a digit, a point or nothing. -/
theorem isTerm_of_scan {cs rest : List Char} {term : Term} {scale : Nat}
    (h : splitTerm cs = .ok (term, rest)) (hscale : unitNanos? term.unit = some scale) :
    ∃ text, cs = text ++ rest ∧ IsTerm text (termNanos scale term.whole term.fraction) := by
  obtain ⟨hne, -, hks, hfs, hcs⟩ := splitTerm_cases h
  have hunit := mem_units_of_unitNanos? hscale
  rw [termNanos_eq]
  rcases hcs with hcs | ⟨hnil, hcs⟩
  · refine ⟨_, ?_, .pointed hne (digits_ten_iff.mpr ⟨hks, rfl⟩) (digits_ten_iff.mpr ⟨hfs, rfl⟩)
      hunit⟩
    rw [hcs, String.toList_ofList, List.append_assoc, List.cons_append, List.append_assoc]
  · rw [hnil]
    refine ⟨_, ?_, .whole (hne.resolve_right (· hnil)) (digits_ten_iff.mpr ⟨hks, rfl⟩) hunit⟩
    rw [hcs, String.toList_ofList, List.append_assoc]

/-- A term starts with a digit or a point. -/
theorem IsTerm.exists_eq_cons {text : List Char} {n : Nat} (h : IsTerm text n) :
    ∃ c rest, text = c :: rest ∧ isUnitChar c = false := by
  have hdigit : ∀ {ks : List Char} {ds : List Nat}, Digits 10 ks ds → ∀ c ∈ ks,
      isUnitChar c = false := by
    intro ks ds hks c hc
    have hc := (digits_ten_iff.mp hks).1 c hc
    simp [isUnitChar, hc]
  cases h with
  | @whole ks _ _ _ hne hks _ =>
    obtain ⟨c, ks, rfl⟩ := List.exists_cons_of_ne_nil hne
    exact ⟨c, _, rfl, hdigit hks c List.mem_cons_self⟩
  | @pointed ks _ _ _ _ _ _ hks _ _ =>
    cases ks with
    | nil => exact ⟨'.', _, rfl, rfl⟩
    | cons c ks => exact ⟨c, _, rfl, hdigit hks c List.mem_cons_self⟩

theorem IsTerm.exists_unitChar {text : List Char} {n : Nat} (h : IsTerm text n) :
    ∃ c ∈ text, isUnitChar c = true := by
  have hunit : ∀ {unit : String} {scale : Nat}, (unit, scale) ∈ units →
      ∃ c ∈ unit.toList, isUnitChar c = true := by
    intro unit scale hunit
    obtain ⟨hne, hchars⟩ := isUnitChar_of_mem_units _ hunit
    obtain ⟨c, hc⟩ := List.exists_mem_of_ne_nil _ hne
    exact ⟨c, hc, hchars c hc⟩
  cases h with
  | whole _ _ h =>
    obtain ⟨c, hc, hchar⟩ := hunit h
    exact ⟨c, by simp [hc], hchar⟩
  | pointed _ _ _ h =>
    obtain ⟨c, hc, hchar⟩ := hunit h
    exact ⟨c, by simp [hc], hchar⟩

end ConfigBinding.Duration
