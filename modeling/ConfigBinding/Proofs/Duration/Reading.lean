import ConfigBinding.Proofs.Duration.Terms
import ConfigBinding.Proofs.Numeral.Literals

/-!
# Reading durations

A duration is written as a sign if need be and a bare zero or a sequence of terms (`IsAmount`), and
it is read as the sum of its terms, if that is within the longest duration and no minus sign stands
before it (`reads_durations`). Texts without sign can be joined, and so are their durations.
-/

set_option autoImplicit false

namespace ConfigBinding.Duration

open Numeral

/-- Terms one after another, one at least, and their sum. -/
inductive IsSum : List Char → Nat → Prop
  | last {text : List Char} {n : Nat} : IsTerm text n → IsSum text n
  | more {text rest : List Char} {n m : Nat} : IsTerm text n → IsSum rest m →
      IsSum (text ++ rest) (n + m)

/-- What may stand behind the sign of a duration, and its nanoseconds. -/
inductive IsAmount : List Char → Nat → Prop
  | zero : IsAmount ['0'] 0
  | sum {cs : List Char} {n : Nat} : IsSum cs n → IsAmount cs n

/-! ## Sums -/

theorem IsSum.exists_eq_cons {cs : List Char} {n : Nat} (h : IsSum cs n) :
    ∃ c rest, cs = c :: rest ∧ isUnitChar c = false := by
  cases h with
  | last h => exact h.exists_eq_cons
  | more h _ =>
    obtain ⟨c, rest, rfl, hc⟩ := h.exists_eq_cons
    exact ⟨c, _, rfl, hc⟩

theorem IsSum.stops {cs : List Char} {n : Nat} (h : IsSum cs n) : Stops isUnitChar cs := by
  obtain ⟨c, rest, rfl, hc⟩ := h.exists_eq_cons
  exact stops_cons_iff.mpr hc

theorem IsSum.exists_unitChar {cs : List Char} {n : Nat} (h : IsSum cs n) :
    ∃ c ∈ cs, isUnitChar c = true := by
  cases h with
  | last h => exact h.exists_unitChar
  | more h _ =>
    obtain ⟨c, hc, hchar⟩ := h.exists_unitChar
    exact ⟨c, List.mem_append_left _ hc, hchar⟩

/-- A digit alone is no sum, for it has no unit. -/
theorem not_isSum_zero {n : Nat} : ¬ IsSum ['0'] n := by
  intro h
  obtain ⟨c, hc, hchar⟩ := h.exists_unitChar
  obtain rfl := List.mem_singleton.mp hc
  cases hchar

theorem IsSum.append {cs ds : List Char} {n m : Nat} (h : IsSum cs n) (h' : IsSum ds m) :
    IsSum (cs ++ ds) (n + m) := by
  induction h with
  | last h => exact .more h h'
  | more h _ ih =>
    rw [List.append_assoc, Nat.add_assoc]
    exact .more h ih

/-- One step of the reading: a term is taken off the front. -/
theorem readTerms_append {text rest : List Char} {n : Nat} (h : IsTerm text n)
    (hrest : Stops isUnitChar rest) (total : Nat) :
    readTerms total (text ++ rest) =
      if total + n ≤ maxNanos then readTerms (total + n) rest else .error .overflow := by
  obtain ⟨term, scale, hscan, hscale, rfl⟩ := scan_of_isTerm h hrest
  obtain ⟨c, cs, rfl, -⟩ := h.exists_eq_cons
  rw [readTerms, if_neg (by simp)]
  split
  · rename_i fault heq
    rw [hscan] at heq
    cases heq
  · rename_i term' rest' heq
    rw [hscan] at heq
    obtain ⟨rfl, rfl⟩ := Prod.mk.inj (Except.ok.inj heq)
    rw [hscale]

theorem readTerms_nil (total : Nat) : readTerms total [] = .ok total := by
  rw [readTerms]
  rfl

/-- A sum is added to the total, as long as that stays within the longest duration. -/
theorem readTerms_of_isSum {cs : List Char} {m : Nat} (h : IsSum cs m) (total : Nat) :
    readTerms total cs =
      if total + m ≤ maxNanos then .ok (total + m) else .error .overflow := by
  induction h generalizing total with
  | last h =>
    have hstep := readTerms_append h (Stops.nil isUnitChar) total
    rwa [List.append_nil, readTerms_nil] at hstep
  | @more text rest n m h hrest ih =>
    rw [readTerms_append h hrest.stops, ih, Nat.add_assoc]
    by_cases hle : total + n ≤ maxNanos
    · rw [if_pos hle]
    · rw [if_neg hle, if_neg (by omega)]

/-- A text is added up to a number if it is a sum of what the number is more than the total. -/
theorem isSum_of_readTerms {total n : Nat} {cs : List Char} (h : readTerms total cs = .ok n)
    (hle : total ≤ maxNanos) :
    n ≤ maxNanos ∧ (cs = [] ∧ n = total ∨ ∃ m, IsSum cs m ∧ n = total + m) := by
  fun_induction readTerms total cs with
  | case1 total cs hempty =>
    obtain rfl := Except.ok.inj h
    exact ⟨hle, .inl ⟨List.isEmpty_iff.mp hempty, rfl⟩⟩
  | case2 => cases h
  | case3 => cases h
  | case4 total cs _ term rest hscan scale hscale sum hsum ih =>
    obtain ⟨text, rfl, hterm⟩ := isTerm_of_scan hscan hscale
    obtain ⟨hmax, hrest⟩ := ih h hsum
    refine ⟨hmax, .inr ?_⟩
    rcases hrest with ⟨rfl, rfl⟩ | ⟨m, hm, rfl⟩
    · exact ⟨_, by rw [List.append_nil]; exact .last hterm, rfl⟩
    · exact ⟨_, .more hterm hm, Nat.add_assoc _ _ _⟩
  | case5 => cases h

theorem readTerms_eq_ok_iff {cs : List Char} (hcs : cs ≠ []) {n : Nat} :
    readTerms 0 cs = .ok n ↔ IsSum cs n ∧ n ≤ maxNanos := by
  constructor
  · intro h
    obtain ⟨hmax, ⟨rfl, -⟩ | ⟨m, hm, rfl⟩⟩ := isSum_of_readTerms h (Nat.zero_le _)
    · exact absurd rfl hcs
    · rw [Nat.zero_add] at hmax ⊢
      exact ⟨hm, hmax⟩
  · rintro ⟨h, hle⟩
    rw [readTerms_of_isSum h, Nat.zero_add, if_pos hle]

/-! ## Amounts and signs -/

theorem readUnsigned_eq_ok_iff {cs : List Char} {n : Nat} :
    readUnsigned cs = .ok n ↔ IsAmount cs n ∧ n ≤ maxNanos := by
  unfold readUnsigned
  by_cases hzero : cs = ['0']
  · subst hzero
    rw [if_pos rfl]
    constructor
    · intro h
      obtain rfl := Except.ok.inj h
      exact ⟨.zero, Nat.zero_le _⟩
    · rintro ⟨h, -⟩
      cases h with
      | zero => rfl
      | sum h => exact absurd h not_isSum_zero
  rw [if_neg hzero]
  by_cases hempty : cs = []
  · subst hempty
    refine ⟨nofun, ?_⟩
    rintro ⟨⟨⟩ | h, -⟩
    obtain ⟨c, rest, hcons, -⟩ := h.exists_eq_cons
    cases hcons
  · rw [if_neg (by simpa using hempty), readTerms_eq_ok_iff hempty]
    constructor
    · rintro ⟨h, hle⟩
      exact ⟨.sum h, hle⟩
    · rintro ⟨h, hle⟩
      cases h with
      | zero => exact absurd rfl hzero
      | sum h => exact ⟨h, hle⟩

theorem IsAmount.exists_eq_cons {cs : List Char} {n : Nat} (h : IsAmount cs n) :
    ∃ c rest, cs = c :: rest ∧ isUnitChar c = false := by
  cases h with
  | zero => exact ⟨'0', [], rfl, rfl⟩
  | sum h => exact h.exists_eq_cons

/-- A text is unsigned if it starts with no sign. -/
def Unsigned (s : String) : Prop :=
  s.toList.head? ≠ some '+' ∧ s.toList.head? ≠ some '-'

instance (s : String) : Decidable (Unsigned s) :=
  inferInstanceAs (Decidable (_ ∧ _))

theorem unsigned_of_isAmount {s : String} {n : Nat} (h : IsAmount s.toList n) : Unsigned s := by
  obtain ⟨c, rest, hcs, hc⟩ := h.exists_eq_cons
  unfold Unsigned
  rw [hcs]
  constructor
  · rintro ⟨⟩
    cases hc
  · rintro ⟨⟩
    cases hc

theorem read_plus {s : String} {cs : List Char} (h : s.toList = '+' :: cs) :
    read s = (readUnsigned cs).bind ofNanos := by
  unfold read
  rw [h]
  rfl

theorem read_bare {s : String} (h : Unsigned s) :
    read s = (readUnsigned s.toList).bind ofNanos := by
  obtain ⟨hplus, hminus⟩ := h
  unfold read
  split
  · rename_i cs hcs
    rw [hcs] at hminus
    exact absurd rfl hminus
  · rename_i cs hcs
    rw [hcs] at hplus
    exact absurd rfl hplus
  · rfl

theorem ofNanos_eq_ok_iff {n : Nat} {d : Duration} :
    ofNanos n = .ok d ↔ d.nanos = n ∧ n ≤ maxNanos := by
  unfold ofNanos
  constructor
  · intro h
    split at h
    · rename_i hle
      obtain rfl := Except.ok.inj h
      exact ⟨rfl, hle⟩
    · cases h
  · rintro ⟨rfl, hle⟩
    exact dif_pos hle

/-- A number of nanoseconds that was read after the sign is that of a duration. -/
theorem bind_ofNanos_eq_ok_iff {cs : List Char} {d : Duration} :
    (readUnsigned cs).bind ofNanos = .ok d ↔ IsAmount cs d.nanos ∧ d.nanos ≤ maxNanos := by
  rw [← readUnsigned_eq_ok_iff]
  cases hread : readUnsigned cs with
  | error fault => exact ⟨nofun, nofun⟩
  | ok n =>
    show ofNanos n = .ok d ↔ Except.ok n = .ok d.nanos
    rw [ofNanos_eq_ok_iff, Except.ok.injEq, eq_comm]
    exact and_iff_left (readUnsigned_eq_ok_iff.mp hread).2

theorem read_bare_eq_ok_iff {s : String} (h : Unsigned s) {d : Duration} :
    read s = .ok d ↔ IsAmount s.toList d.nanos ∧ d.nanos ≤ maxNanos := by
  rw [read_bare h, bind_ofNanos_eq_ok_iff]

/-- What stands behind a minus sign has to be nothing at all. -/
theorem read_minus_eq_ok_iff {s : String} {cs : List Char} (h : s.toList = '-' :: cs)
    {d : Duration} : read s = .ok d ↔ IsAmount cs 0 ∧ d.nanos = 0 := by
  have hzero : IsAmount cs 0 ↔ readUnsigned cs = .ok 0 := by
    rw [readUnsigned_eq_ok_iff]
    exact (and_iff_left (Nat.zero_le _)).symm
  unfold read
  rw [h, hzero]
  cases hread : readUnsigned cs with
  | error fault => simp [hread]
  | ok n =>
    simp only [hread]
    rw [Except.ok.injEq]
    by_cases hn : n = 0
    · simp only [hn, ↓reduceIte, true_and, Except.ok.injEq]
      constructor
      · rintro rfl
        rfl
      · intro hd
        cases d
        cases hd
        rfl
    · simp [hn]

theorem sign_cases (s : String) :
    (∃ cs, s.toList = '-' :: cs) ∨ (∃ cs, s.toList = '+' :: cs) ∨ Unsigned s := by
  by_cases hminus : s.toList.head? = some '-'
  · exact .inl (List.head?_eq_some_iff.mp hminus)
  by_cases hplus : s.toList.head? = some '+'
  · exact .inr (.inl (List.head?_eq_some_iff.mp hplus))
  · exact .inr (.inr ⟨hplus, hminus⟩)

theorem read_eq_ok_iff {s : String} {d : Duration} :
    read s = .ok d ↔ ∃ sign body, Sign true s.toList sign body ∧ IsAmount body d.nanos ∧
      d.nanos ≤ maxNanos ∧ (sign = -1 → d.nanos = 0) := by
  constructor
  · intro h
    rcases sign_cases s with ⟨cs, hcs⟩ | ⟨cs, hcs⟩ | hbare
    · obtain ⟨hamount, hzero⟩ := (read_minus_eq_ok_iff hcs).mp h
      exact ⟨-1, cs, hcs ▸ .minus cs rfl, hzero ▸ hamount, hzero ▸ Nat.zero_le _, fun _ => hzero⟩
    · rw [read_plus hcs, bind_ofNanos_eq_ok_iff] at h
      exact ⟨1, cs, hcs ▸ .plus cs rfl, h.1, h.2, nofun⟩
    · obtain ⟨hamount, hle⟩ := (read_bare_eq_ok_iff hbare).mp h
      exact ⟨1, _, .bare _, hamount, hle, nofun⟩
  · rintro ⟨sign, body, hsign, hamount, hle, hzero⟩
    generalize hcs : s.toList = cs at hsign
    cases hsign with
    | bare =>
      subst hcs
      exact (read_bare_eq_ok_iff (unsigned_of_isAmount hamount)).mpr ⟨hamount, hle⟩
    | plus =>
      rw [read_plus hcs, bind_ofNanos_eq_ok_iff]
      exact ⟨hamount, hle⟩
    | minus =>
      have hnone := hzero rfl
      exact (read_minus_eq_ok_iff hcs).mpr ⟨hnone ▸ hamount, hnone⟩

/-- A sum of terms is read as a duration if it is not too long. -/
theorem read_of_isSum {s : String} {n : Nat} (h : IsSum s.toList n) : read s = ofNanos n := by
  have hne : s.toList ≠ ['0'] := by
    intro hs
    exact not_isSum_zero (hs ▸ h)
  obtain ⟨c, rest, hcons, -⟩ := h.exists_eq_cons
  have hsum := readTerms_of_isSum h 0
  rw [Nat.zero_add] at hsum
  rw [read_bare (unsigned_of_isAmount (.sum h)), readUnsigned, if_neg hne,
    if_neg (by simp [hcons]), hsum]
  by_cases hle : n ≤ maxNanos
  · rw [if_pos hle]
    rfl
  · rw [if_neg hle]
    show Except.error Fault.overflow = ofNanos n
    unfold ofNanos
    rw [dif_neg hle]

/-- An unsigned text that is read and is not the bare zero is a sum of terms. -/
theorem isSum_of_read {s : String} (hs : Unsigned s) (hne : s ≠ "0") {d : Duration}
    (h : read s = .ok d) : IsSum s.toList d.nanos := by
  have hamount := ((read_bare_eq_ok_iff hs).mp h).1
  generalize hcs : s.toList = cs at hamount
  generalize d.nanos = n at hamount
  cases hamount with
  | zero => exact absurd (String.toList_injective hcs) hne
  | sum h => exact h

/-- **The language of durations.** A text is read as a duration of `n` nanoseconds exactly if it is
a sign or none and behind it a bare zero or terms that add up to `n`, where `n` is below `2 ^ 63`,
and zero behind a minus sign. So texts without sign other than the bare zero can be put together:
the result is read exactly if the sum of their durations is below `2 ^ 63`, and then as that, in
either order. -/
theorem reads_durations :
    (∀ (s : String) (n : Nat), (∃ d, read s = .ok d ∧ d.nanos = n) ↔
      ∃ sign body, Sign true s.toList sign body ∧ IsAmount body n ∧ n ≤ 2 ^ 63 - 1 ∧
        (sign = -1 → n = 0)) ∧
    ∀ (a b : String) (x y : Duration), Unsigned a → Unsigned b → a ≠ "0" → b ≠ "0" →
      read a = .ok x → read b = .ok y →
      ((∃ d, read (a ++ b) = .ok d) ↔ x.nanos + y.nanos ≤ 2 ^ 63 - 1) ∧
        (∀ d, read (a ++ b) = .ok d → d.nanos = x.nanos + y.nanos) ∧
        read (b ++ a) = read (a ++ b) := by
  refine ⟨fun s n => ?_, fun a b x y ha hb hane hbne hx hy => ?_⟩
  · constructor
    · rintro ⟨d, hd, rfl⟩
      exact read_eq_ok_iff.mp hd
    · rintro ⟨sign, body, hsign, hamount, hle, hzero⟩
      exact ⟨⟨n, lt_of_le_maxNanos hle⟩,
        read_eq_ok_iff.mpr ⟨sign, body, hsign, hamount, hle, hzero⟩, rfl⟩
  · have hsum := isSum_of_read ha hane hx
    have hsum' := isSum_of_read hb hbne hy
    have hab : read (a ++ b) = ofNanos (x.nanos + y.nanos) :=
      read_of_isSum (by rw [String.toList_append]; exact hsum.append hsum')
    have hba : read (b ++ a) = ofNanos (y.nanos + x.nanos) :=
      read_of_isSum (by rw [String.toList_append]; exact hsum'.append hsum)
    rw [hba, hab, Nat.add_comm y.nanos]
    refine ⟨⟨?_, fun hle => ?_⟩, fun d hd => (ofNanos_eq_ok_iff.mp hd).1, rfl⟩
    · rintro ⟨d, hd⟩
      exact (ofNanos_eq_ok_iff.mp hd).2
    · exact ⟨⟨_, lt_of_le_maxNanos hle⟩, ofNanos_eq_ok_iff.mpr ⟨rfl, hle⟩⟩

/-- Hours and minutes are read together as they are read apart, and the longest duration leaves no
room for a second more. -/
theorem reads_durations_joined :
    ((∃ d, read ("1h" ++ "30m") = .ok d) ∧ read ("30m" ++ "1h") = read ("1h" ++ "30m")) ∧
      ¬ ∃ d, read ("9223372036854775807ns" ++ "1s") = .ok d := by
  have hour : read "1h" = .ok ⟨3600000000000, by decide⟩ := by decide +kernel
  have halfHour : read "30m" = .ok ⟨1800000000000, by decide⟩ := by decide +kernel
  have longest : read "9223372036854775807ns" = .ok ⟨9223372036854775807, by decide⟩ := by
    decide +kernel
  have second : read "1s" = .ok ⟨1000000000, by decide⟩ := by decide +kernel
  obtain ⟨hread, -, hcomm⟩ := reads_durations.2 _ _ _ _ (by decide) (by decide) (by decide)
    (by decide) hour halfHour
  obtain ⟨hfull, -⟩ := reads_durations.2 _ _ _ _ (by decide) (by decide) (by decide)
    (by decide) longest second
  exact ⟨⟨hread.mpr (by decide), hcomm⟩, fun h => absurd (hfull.mp h) (by decide)⟩

end ConfigBinding.Duration
