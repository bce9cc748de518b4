import ConfigBinding.Kind.Reading
import ConfigBinding.Proofs.Numeral.Literals

/-!
# Reading integers

An integer type reads exactly the literals of its values (`reads_integer_literals`), and every value
has spellings in all notations that are read as it (`Spells`). A text that is refused is out of
range if it is a literal of a number that the type does not have, and malformed if it is no literal;
but a text whose front overruns the reader is out of range too, although it may be no literal
(`integer_refusals`, `overrun_out_of_range`).
-/

set_option autoImplicit false

namespace ConfigBinding

open Numeral

namespace IntType

theorem signed_of_neg {t : IntType} (v : t.Value) (h : v.val < 0) : t.signed = true := by
  have hmin := v.min_le
  cases hs : t.signed with
  | true => rfl
  | false =>
    simp only [minValue, hs, Bool.false_eq_true, ↓reduceIte] at hmin
    omega

theorem range_within_limit (t : IntType) :
    -(limit t.signed : Int) ≤ t.minValue ∧ t.maxValue ≤ (limit t.signed : Int) := by
  cases t <;> decide

/-- A reader can hold every value of a type. -/
theorem natAbs_le_limit {t : IntType} (v : t.Value) : v.val.natAbs ≤ limit t.signed := by
  obtain ⟨hlow, hhigh⟩ := t.range_within_limit
  have hmin := v.min_le
  have hmax := v.le_max
  omega

theorem ofInt?_val {t : IntType} (v : t.Value) : t.ofInt? v.val = some v := by
  unfold ofInt?
  rw [dif_pos ⟨v.min_le, v.le_max⟩]

theorem ofInt?_eq_some_iff {t : IntType} {n : Int} {v : t.Value} :
    t.ofInt? n = some v ↔ n = v.val := by
  constructor
  · intro h
    unfold ofInt? at h
    split at h
    · rw [← Option.some.inj h]
    · cases h
  · rintro rfl
    exact ofInt?_val v

theorem ofInt?_eq_none_iff {t : IntType} {n : Int} :
    t.ofInt? n = none ↔ ¬ (t.minValue ≤ n ∧ n ≤ t.maxValue) := by
  unfold ofInt?
  split <;> simp [*]

end IntType

namespace Kind

/-! ## What is read, and what is not -/

section
variable {t : IntType} {s : String}

theorem readLiteral_eq (t : IntType) (s : String) :
    readLiteral t s = readEither t.signed s.toList := rfl

theorem readInt_eq_ok_iff {v : t.Value} :
    readInt t s = .ok v ↔ Literal t.signed s.toList v.val := by
  have hok := @readEither_eq_ok_iff t.signed s.toList v.val
  rw [← readLiteral_eq] at hok
  constructor
  · intro h
    unfold readInt at h
    split at h
    · cases h
    · cases h
    · rename_i n hn
      split at h
      · rename_i w hw
        obtain rfl := Except.ok.inj h
        obtain rfl := IntType.ofInt?_eq_some_iff.mp hw
        exact (hok.mp hn).1
      · cases h
  · intro h
    simp [readInt, hok.mpr ⟨h, IntType.natAbs_le_limit v⟩, IntType.ofInt?_val]

theorem readInt_outOfRange_iff :
    readInt t s = .error (.outOfRange t.name s) ↔
      Overrun t.signed s.toList ∨
        ∃ n, Literal t.signed s.toList n ∧ ¬ (t.minValue ≤ n ∧ n ≤ t.maxValue) := by
  have hok := @readEither_eq_ok_iff t.signed s.toList
  have hlarge := @readEither_eq_tooLarge_iff t.signed s.toList
  simp only [← readLiteral_eq] at hok hlarge
  have hrange := t.range_within_limit
  constructor
  · intro h
    unfold readInt at h
    split at h
    · cases h
    · rename_i hread
      rcases hlarge.mp hread with hmany | ⟨n, hn, hlt⟩
      · exact .inl hmany
      · exact .inr ⟨n, hn, by omega⟩
    · rename_i n hn
      split at h
      · cases h
      · rename_i hnone
        exact .inr ⟨n, (hok.mp hn).1, IntType.ofInt?_eq_none_iff.mp hnone⟩
  · rintro (hmany | ⟨n, hn, hout⟩)
    · simp [readInt, hlarge.mpr (.inl hmany)]
    · by_cases hle : n.natAbs ≤ limit t.signed
      · simp [readInt, hok.mpr ⟨hn, hle⟩, IntType.ofInt?_eq_none_iff.mpr hout]
      · simp [readInt, hlarge.mpr (.inr ⟨n, hn, Nat.lt_of_not_le hle⟩)]

/-- A text is read as a value or refused for one of two reasons, with the name of the type and the
whole text. -/
theorem readInt_cases (t : IntType) (s : String) :
    (∃ v, readInt t s = .ok v) ∨ readInt t s = .error (.outOfRange t.name s) ∨
      readInt t s = .error (.malformed t.name s) := by
  unfold readInt
  split
  · exact .inr (.inr rfl)
  · exact .inr (.inl rfl)
  · split
    · exact .inl ⟨_, rfl⟩
    · exact .inr (.inl rfl)

/-- A text that is refused is no literal of a value. -/
theorem not_in_range_of_refused {e : CoercionError} (h : readInt t s = .error e) {n : Int}
    (hn : Literal t.signed s.toList n) : ¬ (t.minValue ≤ n ∧ n ≤ t.maxValue) := by
  rintro ⟨hmin, hmax⟩
  have hok := (readInt_eq_ok_iff (v := ⟨n, hmin, hmax⟩)).mpr hn
  rw [h] at hok
  cases hok

theorem readInt_malformed_iff :
    readInt t s = .error (.malformed t.name s) ↔
      (∀ n, ¬ Literal t.signed s.toList n) ∧ ¬ Overrun t.signed s.toList := by
  constructor
  · intro h
    have hrange : ¬ readInt t s = .error (.outOfRange t.name s) := by rw [h]; nofun
    rw [readInt_outOfRange_iff, not_or] at hrange
    exact ⟨fun n hn => hrange.2 ⟨n, hn, not_in_range_of_refused h hn⟩, hrange.1⟩
  · rintro ⟨hliteral, hmany⟩
    rcases readInt_cases t s with ⟨v, hv⟩ | hout | hmal
    · exact absurd (readInt_eq_ok_iff.mp hv) (hliteral v.val)
    · rcases readInt_outOfRange_iff.mp hout with hover | ⟨n, hn, -⟩
      · exact absurd hover hmany
      · exact absurd hn (hliteral n)
    · exact hmal

end

/-- **The language of integers.** A text is read as an integer of a type exactly if it is a literal
of it, with a sign only if the type has one, and the type has it. So each spelling of a value, in
base ten, with a letter that marks the base, or behind a zero in base eight, with separators
wherever they may stand, is read as the value. -/
theorem reads_integer_literals (t : IntType) :
    (∀ (s : String) (n : Int), (∃ v : t.Value, (Kind.int t).read s = .ok v ∧ v.val = n) ↔
      Literal t.signed s.toList n ∧ t.minValue ≤ n ∧ n ≤ t.maxValue) ∧
    ∀ (v : t.Value) (cs : List Char), Spells t.signed v.val cs →
      (Kind.int t).read (String.ofList cs) = .ok v := by
  refine ⟨fun s n => ?_, fun v cs h => ?_⟩
  · constructor
    · rintro ⟨v, hv, rfl⟩
      exact ⟨readInt_eq_ok_iff.mp hv, v.min_le, v.le_max⟩
    · rintro ⟨hn, hmin, hmax⟩
      exact ⟨⟨n, hmin, hmax⟩, readInt_eq_ok_iff.mpr hn, rfl⟩
  · refine readInt_eq_ok_iff.mpr ?_
    rw [String.toList_ofList]
    exact h.literal (IntType.signed_of_neg v)

/-- The least value of a byte with sign, in base sixteen with separators. -/
theorem reads_integer_literals_least :
    let v : IntType.i8.Value := ⟨-128, by decide, by decide⟩
    Spells true v.val ['-', '0', 'X', '_', '8', '_', '0'] ∧
      (Kind.int .i8).read "-0X_8_0" = .ok v := by
  intro v
  have hbody : Body true ['_', '8', '_', '0'] ['8', '0'] :=
    .gap (.gap (by decide) (.last (by decide)))
  have hmark : (['0', 'X'], 16) ∈ marks := by decide
  have hspells : Spells true v.val (['-'] ++ ['0', 'X'] ++ ['_', '8', '_', '0']) :=
    .intro (by decide) hmark hbody (by decide)
  exact ⟨hspells, (reads_integer_literals .i8).2 v _ hspells⟩

/-- **Why integers are refused.** A text that is read as no value of a type is either out of range
or malformed, and either way the error has the name of the type and the whole text. It is out of
range if it is a literal of a number that the type does not have, and also if it is no literal but
digits at its front are too many to hold; malformed are the other texts that are no literals. -/
theorem integer_refusals (t : IntType) (s : String) :
    ((Kind.int t).read s = .error (.outOfRange t.name s) ↔
      (∃ n, Literal t.signed s.toList n ∧ ¬ (t.minValue ≤ n ∧ n ≤ t.maxValue)) ∨
        (∀ n, ¬ Literal t.signed s.toList n) ∧ Overrun t.signed s.toList) ∧
    ((Kind.int t).read s = .error (.malformed t.name s) ↔
      (∀ n, ¬ Literal t.signed s.toList n) ∧ ¬ Overrun t.signed s.toList) ∧
    ((∃ v, (Kind.int t).read s = .ok v) ∨ (Kind.int t).read s = .error (.outOfRange t.name s) ∨
      (Kind.int t).read s = .error (.malformed t.name s)) := by
  refine ⟨?_, readInt_malformed_iff, readInt_cases t s⟩
  have hread : (Kind.int t).read s = readInt t s := rfl
  rw [hread]
  constructor
  · intro hout
    by_cases hliteral : ∃ n, Literal t.signed s.toList n
    · obtain ⟨n, hn⟩ := hliteral
      exact .inl ⟨n, hn, not_in_range_of_refused hout hn⟩
    · rcases readInt_outOfRange_iff.mp hout with hmany | ⟨n, hn, -⟩
      · exact .inr ⟨not_exists.mp hliteral, hmany⟩
      · exact absurd ⟨n, hn⟩ hliteral
  · rintro (hliteral | ⟨-, hmany⟩)
    · exact readInt_outOfRange_iff.mpr (.inr hliteral)
    · exact readInt_outOfRange_iff.mpr (.inl hmany)

/-- A text that is no literal is out of range where the digits before the offending character are
more than the reader can hold. -/
theorem overrun_out_of_range :
    let s := "999999999999999999999999999999999999999z"
    (Kind.int .u8).read s = .error (.outOfRange "u8" s) ∧ ∀ n, ¬ Literal false s.toList n := by
  intro s
  have htext : s.toList = List.replicate 39 '9' ++ ['z'] := by decide
  have hread : readInt .u8 s = .error (.outOfRange "u8" s) := by decide
  refine ⟨hread, ?_⟩
  rintro n ⟨sign, body, m, hsign, hm, -⟩
  rw [hsign.body_eq, htext] at hm
  exact hm.digitOf?_ne_none (c := 'z') (by decide) (by decide) (by decide)

end Kind

end ConfigBinding
