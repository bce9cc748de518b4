import ConfigBinding.Proofs.Numeral.Digits

/-!
# The grammar of integer literals

A literal is a sign where one is allowed, a mark of its base, and a body of characters among which
single separators stand. `Layout` says how a text falls into base and body, whatever the characters
of the body are; a text is a literal if they are digits of the base (`Magnitude`, `Literal`), and it
*overruns* if digits at the front of the body have passed the reader's limit (`Overruns`,
`Overrun`).

* `separatorsFit_iff`: the pass over the separators finds exactly the bodies.
* `readMagnitude_eq_ok_iff`, `readMagnitude_eq_tooLarge_iff`: what a text without sign reads as.
* `readEither_eq_ok_iff`, `readEither_eq_tooLarge_iff`: the same with a sign where one is allowed.
-/

set_option autoImplicit false

namespace ConfigBinding.Numeral

/-! ## Separators -/

/-- `cs` is the characters `ks`, at least one and none of them `_`, with at most one `_` between any
two. -/
inductive Separated : List Char → List Char → Prop
  | last {c : Char} : c ≠ '_' → Separated [c] [c]
  | next {c : Char} {cs ks : List Char} : c ≠ '_' → Separated cs ks → Separated (c :: cs) (c :: ks)
  | gap {c : Char} {cs ks : List Char} : c ≠ '_' → Separated cs ks →
      Separated (c :: '_' :: cs) (c :: ks)

/-- The body of a literal: behind a mark of the base, one `_` may stand in front of the first
character. -/
inductive Body : (marked : Bool) → List Char → List Char → Prop
  | straight {marked : Bool} {cs ks : List Char} : Separated cs ks → Body marked cs ks
  | gap {cs ks : List Char} : Separated cs ks → Body true ('_' :: cs) ks

theorem Separated.eq_filter {cs ks : List Char} (h : Separated cs ks) :
    ks = cs.filter (· ≠ '_') := by
  induction h with
  | last hc => simp [hc]
  | next hc _ ih => simp [hc, ih]
  | gap hc _ ih => simp [hc, ih]

theorem Body.eq_filter {marked : Bool} {cs ks : List Char} (h : Body marked cs ks) :
    ks = cs.filter (· ≠ '_') := by
  cases h with
  | straight h => exact h.eq_filter
  | gap h => simpa using h.eq_filter

theorem Body.ne_nil {marked : Bool} {cs ks : List Char} (h : Body marked cs ks) : cs ≠ [] := by
  rintro rfl
  cases h with
  | straight h => cases h

theorem Body.not_mem {marked : Bool} {cs ks : List Char} (h : Body marked cs ks) : '_' ∉ ks := by
  rw [h.eq_filter]
  simp

theorem not_separated_underscore {cs ks : List Char} : ¬ Separated ('_' :: cs) ks := by
  intro h
  cases h <;> contradiction

theorem body_false_iff {cs ks : List Char} : Body false cs ks ↔ Separated cs ks := by
  constructor
  · intro h
    cases h with
    | straight h => exact h
  · exact .straight

theorem body_underscore_iff {marked : Bool} {cs ks : List Char} :
    Body marked ('_' :: cs) ks ↔ marked = true ∧ Separated cs ks := by
  constructor
  · intro h
    cases h with
    | straight h => exact absurd h not_separated_underscore
    | gap h => exact ⟨rfl, h⟩
  · rintro ⟨rfl, h⟩
    exact .gap h

/-- Behind a character that is no separator stands what may stand behind a mark of the base. -/
theorem body_cons_iff {marked : Bool} {c : Char} (hc : c ≠ '_') {cs ks : List Char}
    (hcs : cs ≠ []) :
    Body marked (c :: cs) (c :: ks) ↔ Body true cs ks := by
  constructor
  · intro h
    cases h with
    | straight h =>
      cases h with
      | last => exact absurd rfl hcs
      | next _ h => exact .straight h
      | gap _ h => exact .gap h
    | gap => exact absurd rfl hc
  · intro h
    cases h with
    | straight h => exact .straight (.next hc h)
    | gap h => exact .straight (.gap hc h)

theorem Body.exists_eq_cons {marked : Bool} {c : Char} (hc : c ≠ '_') {cs ks : List Char}
    (h : Body marked (c :: cs) ks) : ∃ rest, ks = c :: rest := by
  rw [h.eq_filter, List.filter_cons_of_pos (by simpa using hc)]
  exact ⟨_, rfl⟩

/-- The pass over the separators accepts exactly the bodies. -/
theorem separatorsFit_iff {marked : Bool} {cs : List Char} (hcs : cs ≠ []) :
    separatorsFit marked cs = true ↔ Body marked cs (cs.filter (· ≠ '_')) := by
  fun_induction separatorsFit marked cs with
  | case1 => exact absurd rfl hcs
  | case2 marked c =>
    by_cases hc : c = '_'
    · subst hc
      rw [body_underscore_iff]
      constructor
      · intro h; cases h
      · rintro ⟨-, h⟩; cases h
    · simp only [bne_iff_ne, ne_eq, hc, not_false_eq_true, decide_true, List.filter_cons_of_pos,
        List.filter_nil, true_iff]
      exact .straight (.last hc)
  | case3 marked d rest ih =>
    have hfilter : ('_' :: d :: rest).filter (· ≠ '_') = (d :: rest).filter (· ≠ '_') := by simp
    rw [Bool.and_eq_true, ih (by simp), body_false_iff, hfilter, body_underscore_iff]
  | case4 marked c d rest hc ih =>
    have hfilter : (c :: d :: rest).filter (· ≠ '_') = c :: (d :: rest).filter (· ≠ '_') :=
      List.filter_cons_of_pos (by simpa using hc)
    rw [ih (by simp), hfilter, body_cons_iff hc (by simp)]

/-! ## Marks of the base -/

/-- The letters that mark a base behind a zero, with the base. -/
def baseLetters : List (Char × Nat) :=
  [('x', 16), ('X', 16), ('o', 8), ('O', 8), ('b', 2), ('B', 2)]

/-- How a text without sign falls into the base of a literal and the characters of its body: a
single zero; a body that does not start with a zero, in base ten; a body behind a zero and a letter
that marks the base; a body behind a zero, in base eight. -/
inductive Layout : List Char → (base : Nat) → List Char → Prop
  | zero : Layout ['0'] 10 ['0']
  | decimal {cs ks : List Char} : cs.head? ≠ some '0' → Body false cs ks → Layout cs 10 ks
  | marked {x : Char} {base : Nat} {cs ks : List Char} : baseLetters.lookup x = some base →
      Body true cs ks → Layout ('0' :: x :: cs) base ks
  | leadingZero {cs ks : List Char} : Body true cs ks → Layout ('0' :: cs) 8 ks

/-- A literal without sign and its magnitude. -/
def Magnitude (cs : List Char) (n : Nat) : Prop :=
  ∃ base ks ds, Layout cs base ks ∧ Digits base ks ds ∧ n = positional base ds

/-- Whether digits at the front of a text's body are too many for the reader to hold, whatever
stands behind them. -/
def Overruns (cs : List Char) : Prop :=
  ∃ base ks front rest ds, Layout cs base ks ∧ ks = front ++ rest ∧ Digits base front ds ∧
    maxMagnitude < positional base ds

theorem ofChars_cons (c : Char) (cs : List Char) :
    Spelling.ofChars ('0' :: c :: cs) =
      match baseLetters.lookup c with
      | some base => ⟨base, true, cs⟩
      | none => ⟨8, true, c :: cs⟩ := by
  by_cases hx : c = 'x' ∨ c = 'X'
  · rcases hx with rfl | rfl <;> rfl
  by_cases ho : c = 'o' ∨ c = 'O'
  · rcases ho with rfl | rfl <;> rfl
  by_cases hb : c = 'b' ∨ c = 'B'
  · rcases hb with rfl | rfl <;> rfl
  simp only [not_or] at hx ho hb
  have hnone : baseLetters.lookup c = none := by
    rw [List.lookup_eq_none_iff]
    simp [baseLetters, hx, ho, hb]
  simp [Spelling.ofChars, hnone, hx, ho, hb]

theorem ofChars_of_head {cs : List Char} (h : cs.head? ≠ some '0') :
    Spelling.ofChars cs = ⟨10, false, cs⟩ := by
  unfold Spelling.ofChars
  split
  · exact absurd rfl h
  · rfl

/-- A text is a single zero, goes on behind a zero, or does not start with one. -/
theorem zero_cases (cs : List Char) :
    cs = ['0'] ∨ (∃ c rest, cs = '0' :: c :: rest) ∨ cs.head? ≠ some '0' := by
  by_cases h : cs.head? = some '0'
  · obtain ⟨rest, rfl⟩ := List.head?_eq_some_iff.mp h
    cases rest with
    | nil => exact .inl rfl
    | cons c rest => exact .inr (.inl ⟨c, rest, rfl⟩)
  · exact .inr (.inr h)

theorem baseLetters_spec :
    ∀ p ∈ baseLetters, 0 < p.2 ∧ p.2 ≤ 16 ∧ p.1 ≠ '_' ∧ digitOf? 8 p.1 = none := by
  decide

/-- A letter that marks a base is no octal digit. -/
theorem spec_of_lookup {x : Char} {base : Nat} (h : baseLetters.lookup x = some base) :
    0 < base ∧ base ≤ 16 ∧ x ≠ '_' ∧ digitOf? 8 x = none := by
  obtain ⟨before, after, hsplit, -⟩ := List.lookup_eq_some_iff.mp h
  refine baseLetters_spec (x, base) ?_
  rw [hsplit]
  simp

theorem base_ofChars (cs : List Char) :
    0 < (Spelling.ofChars cs).base ∧ (Spelling.ofChars cs).base ≤ 16 := by
  rcases zero_cases cs with rfl | ⟨c, rest, rfl⟩ | h
  · decide
  · rw [ofChars_cons]
    cases hc : baseLetters.lookup c with
    | none => simp
    | some base =>
      obtain ⟨hpos, hle, -⟩ := spec_of_lookup hc
      exact ⟨hpos, hle⟩
  · rw [ofChars_of_head h]
    simp

/-- The ways in which a text falls into base and body come down to the one that is tried, for every
property of the body that asks for a digit at its front. -/
theorem exists_layout_iff {P : Nat → List Char → Prop}
    (hP : ∀ c ks, P 8 (c :: ks) → digitOf? 8 c ≠ none) {cs : List Char} :
    (∃ base ks, Layout cs base ks ∧ P base ks) ↔
      ∃ ks, Body (Spelling.ofChars cs).prefixed (Spelling.ofChars cs).body ks ∧
        P (Spelling.ofChars cs).base ks := by
  constructor
  · rintro ⟨base, ks, hlayout, hks⟩
    cases hlayout with
    | zero => exact ⟨['0'], .straight (.last (by decide)), hks⟩
    | decimal hhead hbody =>
      rw [ofChars_of_head hhead]
      exact ⟨ks, hbody, hks⟩
    | marked hx hbody =>
      rw [ofChars_cons, hx]
      exact ⟨ks, hbody, hks⟩
    | @leadingZero cs _ hbody =>
      cases cs with
      | nil => exact absurd rfl (hbody.ne_nil)
      | cons c cs =>
        rw [ofChars_cons]
        cases hc : baseLetters.lookup c with
        | none => exact ⟨ks, hbody, hks⟩
        | some base =>
          -- The letter would have to be an octal digit.
          obtain ⟨-, -, hne, hdigit⟩ := spec_of_lookup hc
          obtain ⟨rest, rfl⟩ := hbody.exists_eq_cons hne
          exact absurd hdigit (hP c rest hks)
  · rintro ⟨ks, hbody, hks⟩
    rcases zero_cases cs with rfl | ⟨c, rest, rfl⟩ | h
    · cases hbody with
      | straight h =>
        obtain rfl := h.eq_filter
        exact ⟨10, ['0'], .zero, hks⟩
    · rw [ofChars_cons] at hbody hks
      cases hc : baseLetters.lookup c with
      | none =>
        rw [hc] at hbody hks
        exact ⟨8, ks, .leadingZero hbody, hks⟩
      | some base =>
        rw [hc] at hbody hks
        exact ⟨base, ks, .marked hc hbody, hks⟩
    · rw [ofChars_of_head h] at hbody hks
      exact ⟨10, ks, .decimal h hbody, hks⟩

/-! ## Literals without sign -/

theorem readMagnitude_of_body {cs ks : List Char}
    (h : Body (Spelling.ofChars cs).prefixed (Spelling.ofChars cs).body ks) :
    readMagnitude cs = readDigits (Spelling.ofChars cs).base 0 ks := by
  have hne := h.ne_nil
  obtain rfl := h.eq_filter
  have hfit := (separatorsFit_iff hne).mpr h
  rw [← readDigits_filter]
  simp [readMagnitude, hne, hfit]

theorem readMagnitude_of_not_body {cs : List Char}
    (h : ∀ ks, ¬ Body (Spelling.ofChars cs).prefixed (Spelling.ofChars cs).body ks) :
    readMagnitude cs = .error .malformed := by
  by_cases hne : (Spelling.ofChars cs).body = []
  · simp [readMagnitude, hne]
  · have hfit := mt (separatorsFit_iff hne).mp (h _)
    simp [readMagnitude, hfit]

theorem body_of_readMagnitude {cs : List Char} (h : readMagnitude cs ≠ .error .malformed) :
    ∃ ks, Body (Spelling.ofChars cs).prefixed (Spelling.ofChars cs).body ks := by
  by_contra hnone
  exact h (readMagnitude_of_not_body (not_exists.mp hnone))

theorem magnitude_iff {cs : List Char} {n : Nat} :
    Magnitude cs n ↔
      ∃ ks, Body (Spelling.ofChars cs).prefixed (Spelling.ofChars cs).body ks ∧
        ∃ ds, Digits (Spelling.ofChars cs).base ks ds ∧
          n = positional (Spelling.ofChars cs).base ds := by
  have hP : ∀ c ks, (∃ ds, Digits 8 (c :: ks) ds ∧ n = positional 8 ds) → digitOf? 8 c ≠ none := by
    rintro c ks ⟨ds, hds, -⟩ hnone
    exact not_digits_cons (by decide) hnone hds
  rw [← exists_layout_iff (P := fun base ks => ∃ ds, Digits base ks ds ∧ n = positional base ds) hP]
  simp only [Magnitude, exists_and_left]

theorem overruns_iff {cs : List Char} :
    Overruns cs ↔ ∃ ks, Body (Spelling.ofChars cs).prefixed (Spelling.ofChars cs).body ks ∧
      ∃ front rest ds, ks = front ++ rest ∧ Digits (Spelling.ofChars cs).base front ds ∧
        maxMagnitude < positional (Spelling.ofChars cs).base ds := by
  have hP : ∀ c ks, (∃ front rest ds, c :: ks = front ++ rest ∧ Digits 8 front ds ∧
      maxMagnitude < positional 8 ds) → digitOf? 8 c ≠ none := by
    rintro c ks ⟨front, rest, ds, hsplit, hds, hmax⟩ hnone
    cases front with
    | nil =>
      cases hds
      cases hmax
    | cons d front =>
      obtain ⟨rfl, -⟩ := List.cons.inj hsplit
      exact not_digits_cons (by decide) hnone hds
  rw [← exists_layout_iff (P := fun base ks => ∃ front rest ds, ks = front ++ rest ∧
    Digits base front ds ∧ maxMagnitude < positional base ds) hP]
  simp only [Overruns, exists_and_left]

/-- A text without sign is read as a number if it is a literal of it and the reader can hold it. -/
theorem readMagnitude_eq_ok_iff {cs : List Char} {n : Nat} :
    readMagnitude cs = .ok n ↔ Magnitude cs n ∧ n ≤ maxMagnitude := by
  obtain ⟨hpos, hbase⟩ := base_ofChars cs
  rw [magnitude_iff]
  constructor
  · intro h
    obtain ⟨ks, hbody⟩ := body_of_readMagnitude (by rw [h]; nofun)
    rw [readMagnitude_of_body hbody,
      readDigits_eq_ok_iff hbase hbody.not_mem hpos (Nat.zero_le _)] at h
    obtain ⟨ds, hds, hn, hmax⟩ := h
    exact ⟨⟨ks, hbody, ds, hds, by rw [hn, accumulate_zero]⟩, hmax⟩
  · rintro ⟨⟨ks, hbody, ds, hds, hn⟩, hmax⟩
    rw [readMagnitude_of_body hbody,
      readDigits_eq_ok_iff hbase hbody.not_mem hpos (Nat.zero_le _)]
    exact ⟨ds, hds, by rw [hn, accumulate_zero], hmax⟩

/-- A text without sign is too large if digits at its front are. -/
theorem readMagnitude_eq_tooLarge_iff {cs : List Char} :
    readMagnitude cs = .error .tooLarge ↔ Overruns cs := by
  obtain ⟨hpos, hbase⟩ := base_ofChars cs
  rw [overruns_iff]
  constructor
  · intro h
    obtain ⟨ks, hbody⟩ := body_of_readMagnitude (by rw [h]; nofun)
    rw [readMagnitude_of_body hbody,
      readDigits_eq_tooLarge_iff hbase hbody.not_mem (Nat.zero_le _)] at h
    simp only [accumulate_zero] at h
    exact ⟨ks, hbody, h⟩
  · rintro ⟨ks, hbody, h⟩
    rw [readMagnitude_of_body hbody,
      readDigits_eq_tooLarge_iff hbase hbody.not_mem (Nat.zero_le _)]
    simpa only [accumulate_zero] using h

theorem Magnitude.overruns {cs : List Char} {n : Nat} (h : Magnitude cs n) (hn : maxMagnitude < n) :
    Overruns cs := by
  obtain ⟨base, ks, ds, hlayout, hds, rfl⟩ := h
  exact ⟨base, ks, ks, [], ds, hlayout, (List.append_nil ks).symm, hds, hn⟩

/-- Every character of a literal without sign, but for its mark and separators, is a digit. -/
theorem Magnitude.digitOf?_ne_none {cs : List Char} {n : Nat} (h : Magnitude cs n) {c : Char}
    (hc : c ∈ (Spelling.ofChars cs).body) (hne : c ≠ '_') :
    digitOf? (Spelling.ofChars cs).base c ≠ none := by
  obtain ⟨ks, hbody, ds, hds, -⟩ := magnitude_iff.mp h
  refine hds.digitOf?_ne_none (base_ofChars cs).2 ?_
  rw [hbody.eq_filter, List.mem_filter]
  exact ⟨hc, by simpa using hne⟩

/-! ## Signs -/

/-- A text as a sign, where one is allowed, and what stands behind it. -/
inductive Sign (signed : Bool) : List Char → Int → List Char → Prop
  | bare (cs : List Char) : Sign signed cs 1 cs
  | plus (cs : List Char) : signed = true → Sign signed ('+' :: cs) 1 cs
  | minus (cs : List Char) : signed = true → Sign signed ('-' :: cs) (-1) cs

/-- An integer literal and its value. -/
def Literal (signed : Bool) (cs : List Char) (n : Int) : Prop :=
  ∃ sign body m, Sign signed cs sign body ∧ Magnitude body m ∧ n = sign * m

/-- Whether digits at the front of a text, after its sign, are too many for the reader to hold. -/
def Overrun (signed : Bool) (cs : List Char) : Prop :=
  ∃ sign body, Sign signed cs sign body ∧ Overruns body

/-- Reads a literal without sign whose magnitude is at most `limit`. -/
def readWithin (limit : Nat) (cs : List Char) : Except Fault Nat :=
  match readMagnitude cs with
  | .ok n => if n ≤ limit then .ok n else .error .tooLarge
  | .error fault => .error fault

/-- The largest magnitude of a literal with or without sign. -/
def limit (signed : Bool) : Nat :=
  if signed then maxSignedMagnitude else maxMagnitude

/-- Reads a literal that has a sign only where one is allowed. -/
def readEither (signed : Bool) (cs : List Char) : Except Fault Int :=
  if signed then readSigned cs else (readUnsigned cs).map Int.ofNat

theorem limit_le (signed : Bool) : limit signed ≤ maxMagnitude := by
  cases signed <;> decide

theorem readWithin_eq_ok_iff {limit : Nat} (hlimit : limit ≤ maxMagnitude) {cs : List Char}
    {n : Nat} : readWithin limit cs = .ok n ↔ Magnitude cs n ∧ n ≤ limit := by
  constructor
  · intro h
    unfold readWithin at h
    split at h
    · rename_i m hm
      split at h
      · rename_i hle
        obtain rfl := Except.ok.inj h
        exact ⟨(readMagnitude_eq_ok_iff.mp hm).1, hle⟩
      · cases h
    · cases h
  · rintro ⟨h, hle⟩
    have hm := readMagnitude_eq_ok_iff.mpr ⟨h, Nat.le_trans hle hlimit⟩
    simp [readWithin, hm, hle]

theorem readWithin_eq_tooLarge_iff {limit : Nat} {cs : List Char} :
    readWithin limit cs = .error .tooLarge ↔ Overruns cs ∨ ∃ n, Magnitude cs n ∧ limit < n := by
  constructor
  · intro h
    unfold readWithin at h
    split at h
    · rename_i m hm
      split at h
      · cases h
      · rename_i hlt
        exact .inr ⟨m, (readMagnitude_eq_ok_iff.mp hm).1, Nat.lt_of_not_le hlt⟩
    · rename_i fault hfault
      obtain rfl := Except.error.inj h
      exact .inl (readMagnitude_eq_tooLarge_iff.mp hfault)
  · intro h
    by_cases hmany : Overruns cs
    · simp [readWithin, readMagnitude_eq_tooLarge_iff.mpr hmany]
    · obtain ⟨n, hn, hlt⟩ := h.resolve_left hmany
      have hle : n ≤ maxMagnitude := Nat.le_of_not_lt fun hmax => hmany (hn.overruns hmax)
      have hm := readMagnitude_eq_ok_iff.mpr ⟨hn, hle⟩
      simp [readWithin, hm, Nat.not_le_of_lt hlt]

theorem readMagnitude_sign {c : Char} (hc : c = '+' ∨ c = '-') (cs : List Char) :
    readMagnitude (c :: cs) = .error .malformed := by
  have hhead : (c :: cs).head? ≠ some '0' := by
    rcases hc with rfl | rfl <;> simp
  have hdigit : digitOf? 10 c = none := by
    rcases hc with rfl | rfl <;> rfl
  have hne : c ≠ '_' := by
    rcases hc with rfl | rfl <;> decide
  simp [readMagnitude, ofChars_of_head hhead, readDigits, hne, hdigit]

theorem readUnsigned_eq (cs : List Char) : readUnsigned cs = readMagnitude cs := by
  unfold readUnsigned
  split
  · exact (readMagnitude_sign (.inl rfl) _).symm
  · exact (readMagnitude_sign (.inr rfl) _).symm
  · rfl

theorem readWithin_maxMagnitude (cs : List Char) :
    readWithin maxMagnitude cs = readMagnitude cs := by
  unfold readWithin
  split
  · rename_i n hn
    rw [if_pos (readMagnitude_eq_ok_iff.mp hn).2, hn]
  · rename_i fault hfault
    exact hfault.symm

/-- A text is read as what stands behind its sign. -/
theorem exists_sign_readEither (signed : Bool) (cs : List Char) :
    ∃ sign body, Sign signed cs sign body ∧
      readEither signed cs = (readWithin (limit signed) body).map fun n => sign * Int.ofNat n := by
  cases signed with
  | false =>
    refine ⟨1, cs, .bare cs, ?_⟩
    simp only [readEither, limit, Bool.false_eq_true, ↓reduceIte, readUnsigned_eq,
      readWithin_maxMagnitude, Int.one_mul]
  | true =>
    have hread : readEither true cs = readSigned cs := rfl
    rw [hread]
    unfold readSigned
    split
    · exact ⟨-1, _, .minus _ rfl, by simp only [Int.neg_one_mul]; rfl⟩
    · exact ⟨1, _, .plus _ rfl, by simp only [Int.one_mul]; rfl⟩
    · exact ⟨1, cs, .bare cs, by simp only [Int.one_mul]; rfl⟩

/-- Where what stands behind a sign can be read, it is what the text is read as. -/
theorem readEither_of_sign {signed : Bool} {cs body : List Char} {sign : Int}
    (hsign : Sign signed cs sign body)
    (hread : readWithin (limit signed) body ≠ .error .malformed) :
    readEither signed cs = (readWithin (limit signed) body).map fun n => sign * Int.ofNat n := by
  cases hsign with
  | bare =>
    obtain ⟨sign', body', hsign', heq⟩ := exists_sign_readEither signed cs
    -- Behind no sign no literal starts with one.
    cases hsign' with
    | bare => exact heq
    | plus => exact absurd (by simp [readWithin, readMagnitude_sign]) hread
    | minus => exact absurd (by simp [readWithin, readMagnitude_sign]) hread
  | plus _ hs =>
    subst hs
    simp only [Int.one_mul]
    rfl
  | minus _ hs =>
    subst hs
    simp only [Int.neg_one_mul]
    rfl

theorem Sign.natAbs_mul {signed : Bool} {cs body : List Char} {sign : Int}
    (h : Sign signed cs sign body) (n : Nat) : (sign * n).natAbs = n := by
  cases h <;> simp

theorem Sign.body_eq {cs body : List Char} {sign : Int} (h : Sign false cs sign body) :
    body = cs := by
  cases h with
  | bare => rfl
  | plus _ h => cases h
  | minus _ h => cases h

/-- A text is read as a number if it is a literal of it and the reader can hold it. -/
theorem readEither_eq_ok_iff {signed : Bool} {cs : List Char} {n : Int} :
    readEither signed cs = .ok n ↔ Literal signed cs n ∧ n.natAbs ≤ limit signed := by
  constructor
  · intro h
    obtain ⟨sign, body, hsign, heq⟩ := exists_sign_readEither signed cs
    rw [heq] at h
    cases hread : readWithin (limit signed) body with
    | error fault => rw [hread] at h; cases h
    | ok m =>
      rw [hread] at h
      obtain rfl := Except.ok.inj h
      obtain ⟨hm, hle⟩ := (readWithin_eq_ok_iff (limit_le signed)).mp hread
      exact ⟨⟨sign, body, m, hsign, hm, rfl⟩, (hsign.natAbs_mul m).symm ▸ hle⟩
  · rintro ⟨⟨sign, body, m, hsign, hm, rfl⟩, hle⟩
    rw [hsign.natAbs_mul] at hle
    have hread := (readWithin_eq_ok_iff (limit_le signed)).mpr ⟨hm, hle⟩
    rw [readEither_of_sign hsign (by rw [hread]; nofun), hread]
    rfl

/-- A text is too large if it is a literal that the reader cannot hold, or if digits at its front
are too many already. -/
theorem readEither_eq_tooLarge_iff {signed : Bool} {cs : List Char} :
    readEither signed cs = .error .tooLarge ↔
      Overrun signed cs ∨ ∃ n, Literal signed cs n ∧ limit signed < n.natAbs := by
  constructor
  · intro h
    obtain ⟨sign, body, hsign, heq⟩ := exists_sign_readEither signed cs
    rw [heq] at h
    cases hread : readWithin (limit signed) body with
    | ok m => rw [hread] at h; cases h
    | error fault =>
      rw [hread] at h
      obtain rfl := Except.error.inj h
      rcases readWithin_eq_tooLarge_iff.mp hread with hmany | ⟨m, hm, hlt⟩
      · exact .inl ⟨sign, body, hsign, hmany⟩
      · exact .inr ⟨sign * m, ⟨sign, body, m, hsign, hm, rfl⟩, (hsign.natAbs_mul m).symm ▸ hlt⟩
  · intro h
    obtain ⟨sign, body, hsign, hread⟩ : ∃ sign body, Sign signed cs sign body ∧
        readWithin (limit signed) body = .error .tooLarge := by
      rcases h with ⟨sign, body, hsign, hmany⟩ | ⟨n, ⟨sign, body, m, hsign, hm, rfl⟩, hlt⟩
      · exact ⟨sign, body, hsign, readWithin_eq_tooLarge_iff.mpr (.inl hmany)⟩
      · rw [hsign.natAbs_mul] at hlt
        exact ⟨sign, body, hsign, readWithin_eq_tooLarge_iff.mpr (.inr ⟨m, hm, hlt⟩)⟩
    rw [readEither_of_sign hsign (by rw [hread]; nofun), hread]
    rfl

/-! ## Spellings -/

/-- The marks of bases: none for ten, a zero for eight, a zero and a letter for the others. -/
def marks : List (List Char × Nat) :=
  ([], 10) :: (['0'], 8) :: baseLetters.map fun p => (['0', p.1], p.2)

/-- The signs that a number may be written with. -/
def signs (signed : Bool) (n : Int) : List (List Char) :=
  if n < 0 then [['-']] else if signed then [[], ['+']] else [[]]

/-- A text that spells a number: a sign, a mark of a base, and the digits of its magnitude in that
base, its letters in either case, with separators wherever a body may have them. -/
inductive Spells (signed : Bool) (n : Int) : List Char → Prop
  | intro {sign mark body ks : List Char} {base : Nat} : sign ∈ signs signed n →
      (mark, base) ∈ marks → Body (!mark.isEmpty) body ks →
      ks.map Char.toLower = Nat.toDigits base n.natAbs → Spells signed n (sign ++ mark ++ body)

theorem Separated.head?_eq {cs ks : List Char} (h : Separated cs ks) : cs.head? = ks.head? := by
  cases h <;> rfl

theorem base_of_mem_marks : ∀ p ∈ marks, 1 < p.2 ∧ p.2 ≤ 16 := by
  decide

theorem lookup_of_mem_baseLetters : ∀ p ∈ baseLetters, baseLetters.lookup p.1 = some p.2 := by
  decide

theorem eq_zero_of_toLower {ks : List Char} (h : ks.map Char.toLower = Nat.toDigits 10 0) :
    ks = ['0'] := by
  rw [Nat.toDigits_zero] at h
  obtain ⟨c, ks, rfl, hc, hks⟩ := List.map_eq_cons_iff.mp h
  obtain rfl := List.map_eq_nil_iff.mp hks
  have hdigit : IsDigit 10 c 0 := isDigit_of_toLower (by decide) (by decide) hc
  obtain ⟨-, rfl | rfl⟩ := hdigit <;> rfl

/-- The digits of a number in base ten are not taken for a body behind a zero. -/
theorem layout_of_toDigits {cs ks : List Char} {n : Nat} (hbody : Body false cs ks)
    (hks : ks.map Char.toLower = Nat.toDigits 10 n) : Layout cs 10 ks := by
  have hsep := body_false_iff.mp hbody
  by_cases hn : n = 0
  · subst hn
    obtain rfl := eq_zero_of_toLower hks
    cases hsep with
    | last => exact .zero
    | next _ h => cases h
    | gap _ h => cases h
  · refine .decimal ?_ hbody
    obtain ⟨ds, htext, hlt, -, hhead⟩ := toDigits_spec (by decide : 1 < 10) n
    obtain ⟨d, rest, rfl, hd⟩ := hhead hn
    have hds := digits_of_toLower (by decide) hlt (hks.trans htext)
    cases hds with
    | cons hdigit _ =>
      rw [hsep.head?_eq, List.head?_cons]
      intro hzero
      obtain rfl := Option.some.inj hzero
      exact hd (hdigit.unique (by decide) (by decide))

/-- The digits of a number behind a mark of their base are a literal of it. -/
theorem magnitude_of_toDigits {mark body ks : List Char} {base n : Nat}
    (hmark : (mark, base) ∈ marks) (hbody : Body (!mark.isEmpty) body ks)
    (hks : ks.map Char.toLower = Nat.toDigits base n) : Magnitude (mark ++ body) n := by
  obtain ⟨hpos, hbase⟩ := base_of_mem_marks _ hmark
  obtain ⟨ds, htext, hlt, hvalue, -⟩ := toDigits_spec hpos n
  refine ⟨base, ks, ds, ?_, digits_of_toLower hbase hlt (hks.trans htext), hvalue.symm⟩
  rcases List.mem_cons.mp hmark with hplain | hmark
  · obtain ⟨rfl, rfl⟩ := Prod.mk.inj hplain
    exact layout_of_toDigits hbody hks
  rcases List.mem_cons.mp hmark with hzero | hletter
  · obtain ⟨rfl, rfl⟩ := Prod.mk.inj hzero
    exact .leadingZero hbody
  · obtain ⟨p, hp, hpair⟩ := List.mem_map.mp hletter
    obtain ⟨rfl, rfl⟩ := Prod.mk.inj hpair
    exact .marked (lookup_of_mem_baseLetters p hp) hbody

/-- What spells a number is a literal of it, where negative numbers may have a sign. -/
theorem Spells.literal {signed : Bool} {n : Int} {cs : List Char} (h : Spells signed n cs)
    (hneg : n < 0 → signed = true) : Literal signed cs n := by
  cases h with
  | @intro sign mark body ks base hsign hmark hbody hks =>
    have hm := magnitude_of_toDigits hmark hbody hks
    rw [List.append_assoc]
    unfold signs at hsign
    split at hsign
    · rename_i hlt
      obtain rfl := List.mem_singleton.mp hsign
      exact ⟨-1, _, _, .minus _ (hneg hlt), hm, by omega⟩
    · split at hsign
      · rename_i hsigned
        rcases List.mem_cons.mp hsign with rfl | hsign
        · exact ⟨1, _, _, .bare _, hm, by omega⟩
        · obtain rfl := List.mem_singleton.mp hsign
          exact ⟨1, _, _, .plus _ hsigned, hm, by omega⟩
      · obtain rfl := List.mem_singleton.mp hsign
        exact ⟨1, _, _, .bare _, hm, by omega⟩

end ConfigBinding.Numeral
