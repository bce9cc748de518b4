import ConfigBinding.Text.UpperCase

/-!
# Laws of upper-casing

Upper-casing leaves no character without a form (`upper_eq_empty_iff`), leaves the underscore alone
(`upper_underscore`), and is done after one time: what it gives is in upper case (`upper_upper`).
The last is a property of the table: what it gives beyond ASCII, it does not list. Sets of codes are
the bits of numbers here (`listed`), so that a run's forms are compared with the whole table at
once.
-/

set_option autoImplicit false

namespace ConfigBinding.Text

/-! ## No form is empty -/

theorem upperExpansions_ne_nil : ∀ p ∈ upperExpansions, p.2 ≠ [] := by
  decide

theorem mem_of_lookup {codes : List Nat} {n : Nat} (h : upperExpansions.lookup n = some codes) :
    (n, codes) ∈ upperExpansions := by
  obtain ⟨before, after, hsplit, -⟩ := List.lookup_eq_some_iff.mp h
  rw [hsplit]
  simp

theorem upperChar_ne_nil (c : Char) : upperChar c ≠ [] := by
  unfold upperChar
  split
  · exact List.cons_ne_nil _ _
  · split
    · exact List.cons_ne_nil _ _
    · split
      · rename_i codes hcodes
        intro h
        exact upperExpansions_ne_nil _ (mem_of_lookup hcodes) (List.map_eq_nil_iff.mp h)
      · exact List.cons_ne_nil _ _

/-- Only the empty text has an empty upper-case form. -/
theorem upper_eq_empty_iff {s : String} : upper s = "" ↔ s = "" := by
  constructor
  · intro h
    have hforms : s.toList.flatMap upperChar = [] := by rw [← toList_upper, h]; rfl
    have hnone : s.toList = [] := by
      rw [List.eq_nil_iff_forall_not_mem]
      intro c hc
      exact upperChar_ne_nil c (List.flatMap_eq_nil_iff.mp hforms c hc)
    exact String.toList_injective hnone
  · rintro rfl
    rfl

theorem upper_underscore : upper "_" = "_" := by
  decide

/-! ## Codes as bits -/

/-- The number whose bits are every `step`-th code from `first` on, `count` of them behind the
first. -/
def bitsFrom (first step : Nat) : Nat → Nat
  | 0 => 1 <<< first
  | count + 1 => 1 <<< (first + step * (count + 1)) ||| bitsFrom first step count

theorem testBit_shiftLeft_self (n : Nat) : (1 <<< n).testBit n = true := by
  rw [Nat.one_shiftLeft]
  exact Nat.testBit_two_pow_self

theorem testBit_bitsFrom (first step : Nat) {i count : Nat} (h : i ≤ count) :
    (bitsFrom first step count).testBit (first + step * i) = true := by
  induction count with
  | zero =>
    obtain rfl := Nat.le_zero.mp h
    exact testBit_shiftLeft_self _
  | succ count ih =>
    rw [bitsFrom, Nat.testBit_or]
    obtain hlt | rfl := Nat.lt_or_eq_of_le h
    · rw [ih (Nat.le_of_lt_succ hlt), Bool.or_true]
    · rw [testBit_shiftLeft_self, Bool.true_or]

/-- The bits of all members of a list. -/
def bitsOf {α : Type} (bits : α → Nat) (xs : List α) : Nat :=
  xs.foldr (fun x all => bits x ||| all) 0

theorem testBit_bitsOf {α : Type} {bits : α → Nat} {xs : List α} {x : α} {n : Nat} (hx : x ∈ xs)
    (hn : (bits x).testBit n = true) : (bitsOf bits xs).testBit n = true := by
  induction xs with
  | nil => cases hx
  | cons y ys ih =>
    rw [bitsOf, List.foldr_cons, Nat.testBit_or]
    obtain rfl | hys := List.mem_cons.mp hx
    · rw [hn, Bool.true_or]
    · exact (congrArg (_ || ·) (ih hys)).trans (Bool.or_true _)

namespace CaseRun

/-- The code of the upper-case form of a code that the run covers. -/
def image (r : CaseRun) (n : Nat) : Nat :=
  (Int.ofNat n + r.shift).toNat

/-- How many codes a run covers behind the first. -/
def count (r : CaseRun) : Nat :=
  (r.last - r.first) / r.step

/-- The codes that a run covers. -/
def bits (r : CaseRun) : Nat :=
  bitsFrom r.first r.step r.count

/-- The codes of their upper-case forms. -/
def imageBits (r : CaseRun) : Nat :=
  bitsFrom (r.image r.first) r.step r.count

theorem eq_of_covers {r : CaseRun} {n : Nat} (h : r.covers n = true) :
    ∃ i ≤ r.count, n = r.first + r.step * i := by
  simp only [covers, Bool.and_eq_true, decide_eq_true_eq, beq_iff_eq, and_assoc] at h
  obtain ⟨hfirst, hlast, hstep⟩ := h
  refine ⟨(n - r.first) / r.step, Nat.div_le_div_right (by omega), ?_⟩
  rw [Nat.mul_div_cancel' (Nat.dvd_of_mod_eq_zero hstep)]
  omega

theorem testBit_bits {r : CaseRun} {n : Nat} (h : r.covers n = true) : r.bits.testBit n = true := by
  obtain ⟨i, hi, rfl⟩ := eq_of_covers h
  exact testBit_bitsFrom r.first r.step hi

theorem image_le_image {r : CaseRun} {n : Nat} (h : r.covers n = true) :
    r.image r.first ≤ r.image n := by
  obtain ⟨i, -, rfl⟩ := eq_of_covers h
  simp only [image, Int.ofNat_eq_natCast]
  omega

/-- The upper-case forms are as far from one another as the codes. -/
theorem testBit_imageBits {r : CaseRun} {n : Nat} (h : r.covers n = true)
    (hpos : 0 < r.image r.first) : r.imageBits.testBit (r.image n) = true := by
  obtain ⟨i, hi, rfl⟩ := eq_of_covers h
  have himage : r.image (r.first + r.step * i) = r.image r.first + r.step * i := by
    simp only [image, Int.ofNat_eq_natCast] at hpos ⊢
    omega
  rw [himage]
  exact testBit_bitsFrom (r.image r.first) r.step hi

end CaseRun

/-- The codes that the table lists. -/
def listed : Nat :=
  bitsOf CaseRun.bits upperRuns ||| bitsOf (fun p => 1 <<< p.1) upperExpansions

theorem testBit_listed_of_covers {r : CaseRun} {n : Nat} (hr : r ∈ upperRuns)
    (hn : r.covers n = true) : listed.testBit n = true := by
  rw [listed, Nat.testBit_or, testBit_bitsOf hr (CaseRun.testBit_bits hn), Bool.true_or]

theorem testBit_listed_of_expansion {p : Nat × List Nat} (hp : p ∈ upperExpansions) :
    listed.testBit p.1 = true := by
  rw [listed, Nat.testBit_or, testBit_bitsOf hp (testBit_shiftLeft_self p.1), Bool.or_true]

/-- Whether a code is that of a character in upper case, by what the table says of it: a letter of
ASCII, or a code beyond ASCII that is not listed. -/
def isSettled (n : Nat) : Bool :=
  (Char.ofNat n).isUpper || (Nat.ble 0x80 n && !listed.testBit n)

/-- Whether the upper-case forms of all codes of a run are settled: it is the run of one code with a
letter of ASCII for its form, or the forms are beyond ASCII and none of them is listed. -/
def CaseRun.isSettled (r : CaseRun) : Bool :=
  (r.first == r.last && (Char.ofNat (r.image r.first)).isUpper) ||
    (Nat.ble 0x80 (r.image r.first) && r.imageBits &&& listed == 0)

theorem CaseRun.isSettled_of_mem : ∀ r ∈ upperRuns, r.isSettled = true :=
  List.all_eq_true.mp (by decide +kernel)

/-- What a run makes of a code is settled. -/
theorem CaseRun.isSettled_image {r : CaseRun} {n : Nat} (hr : r ∈ upperRuns)
    (hn : r.covers n = true) : Text.isSettled (r.image n) = true := by
  have hsettled := CaseRun.isSettled_of_mem r hr
  simp only [CaseRun.isSettled, Bool.or_eq_true, Bool.and_eq_true, beq_iff_eq, Nat.ble_eq]
    at hsettled
  rcases hsettled with ⟨hone, hletter⟩ | ⟨h80, hdisjoint⟩
  · obtain ⟨i, hi, rfl⟩ := eq_of_covers hn
    have hcount : i = 0 := by
      rw [count, hone, Nat.sub_self, Nat.zero_div] at hi
      exact Nat.le_zero.mp hi
    simp only [hcount, Nat.mul_zero, Nat.add_zero, Text.isSettled, hletter, Bool.true_or]
  · have himage := testBit_imageBits hn (Nat.lt_of_lt_of_le (by decide) h80)
    have hbit := congrArg (Nat.testBit · (r.image n)) hdisjoint
    simp only [Nat.testBit_and, himage, Bool.true_and, Nat.zero_testBit] at hbit
    have hbeyond : 0x80 ≤ r.image n := Nat.le_trans h80 (image_le_image hn)
    simp only [Text.isSettled, hbit, Nat.ble_eq.mpr hbeyond, Bool.not_false, Bool.and_self,
      Bool.or_true]

theorem isSettled_of_mem_expansion : ∀ p ∈ upperExpansions, ∀ n ∈ p.2, isSettled n = true := by
  decide +kernel

/-! ## What is in upper case -/

theorem upperChar_of_isUpper {c : Char} (h : c.isUpper = true) : upperChar c = [c] := by
  obtain ⟨-, hle⟩ : c.val ≥ 'A'.val ∧ c.val ≤ 'Z'.val := of_decide_eq_true h
  have hlt : c.toNat < 0x80 := Nat.lt_of_le_of_lt hle (by decide)
  have hsmall : ¬ (c.val ≥ 'a'.val ∧ c.val ≤ 'z'.val) := by
    rintro ⟨hge, -⟩
    exact absurd (Nat.le_trans hge hle) (by decide)
  have hup : c.toUpper = c := dif_neg hsmall
  rw [upperChar, if_pos hlt, hup]

/-- A character that the table does not list is its own upper-case form. -/
theorem upperChar_of_unlisted {c : Char} (hascii : ¬ c.toNat < 0x80)
    (hruns : upperRuns.find? (·.covers c.toNat) = none)
    (hexpansions : upperExpansions.lookup c.toNat = none) : upperChar c = [c] := by
  simp only [upperChar, if_neg hascii, hruns, hexpansions]

/-- A settled code is that of a character in upper case, if of any. -/
theorem upperChar_of_isSettled {n : Nat} (h : isSettled n = true) :
    upperChar (Char.ofNat n) = [Char.ofNat n] := by
  simp only [isSettled, Bool.or_eq_true, Bool.and_eq_true, Nat.ble_eq, Bool.not_eq_true'] at h
  rcases h with hletter | ⟨h80, hunlisted⟩
  · exact upperChar_of_isUpper hletter
  · by_cases hvalid : n.isValidChar
    · have hcode : (Char.ofNat n).toNat = n := by
        rw [Char.ofNat, dif_pos hvalid]; rfl
      apply upperChar_of_unlisted
      · omega
      · rw [List.find?_eq_none, hcode]
        intro r hr hcovers
        rw [testBit_listed_of_covers hr hcovers] at hunlisted
        cases hunlisted
      · rw [List.lookup_eq_none_iff, hcode]
        intro p hp
        rw [bne_iff_ne]
        rintro rfl
        rw [testBit_listed_of_expansion hp] at hunlisted
        cases hunlisted
    · rw [Char.ofNat, dif_neg hvalid]
      decide

theorem upperChar_toUpper {c : Char} (h : c.toNat < 0x80) : upperChar c.toUpper = [c.toUpper] := by
  have hall : ∀ n < 0x80, upperChar (Char.ofNat n).toUpper = [(Char.ofNat n).toUpper] := by
    decide
  rw [← Char.ofNat_toNat c]
  exact hall c.toNat h

/-- The upper-case form of a character is in upper case. -/
theorem upperChar_of_mem_upperChar {c d : Char} (h : d ∈ upperChar c) : upperChar d = [d] := by
  by_cases hascii : c.toNat < 0x80
  · rw [upperChar, if_pos hascii, List.mem_singleton] at h
    exact h ▸ upperChar_toUpper hascii
  · cases hrun : upperRuns.find? (·.covers c.toNat) with
    | some r =>
      simp only [upperChar, if_neg hascii, hrun, List.mem_singleton] at h
      have hcovers : r.covers c.toNat = true := by simpa using List.find?_some hrun
      rw [h]
      exact upperChar_of_isSettled
        (CaseRun.isSettled_image (List.mem_of_find?_eq_some hrun) hcovers)
    | none =>
      cases hcodes : upperExpansions.lookup c.toNat with
      | some codes =>
        simp only [upperChar, if_neg hascii, hrun, hcodes, List.mem_map] at h
        obtain ⟨n, hn, rfl⟩ := h
        exact upperChar_of_isSettled (isSettled_of_mem_expansion _ (mem_of_lookup hcodes) n hn)
      | none =>
        have hself := upperChar_of_unlisted hascii hrun hcodes
        rw [hself, List.mem_singleton] at h
        rw [h, hself]

/-- What upper-casing gives is in upper case. -/
theorem upper_upper (s : String) : upper (upper s) = upper s := by
  apply String.toList_injective
  rw [toList_upper, toList_upper]
  have hforms : ∀ d ∈ s.toList.flatMap upperChar, upperChar d = [d] := by
    intro d hd
    obtain ⟨c, -, hdc⟩ := List.mem_flatMap.mp hd
    exact upperChar_of_mem_upperChar hdc
  generalize s.toList.flatMap upperChar = ds at hforms
  induction ds with
  | nil => rfl
  | cons d ds ih =>
    obtain ⟨hd, hds⟩ := List.forall_mem_cons.mp hforms
    rw [List.flatMap_cons, hd, ih hds, List.singleton_append]

end ConfigBinding.Text
