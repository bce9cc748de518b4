import ConfigBinding.Proofs.Duration.Terms
import ConfigBinding.Proofs.Numeral.Checked

/-!
# Durations, checked

The reader of durations as it works on the bytes of a text, in the arithmetic of 128 bits: runs of
digits are counted in bytes, a unit is searched for from offset to offset, a round of the loop has
to leave less text than it found, and a fraction is multiplied and divided without a look at the
bounds. It gives what the reader of characters gives (`checkedRead_eq`): the offsets are those of
characters, a fraction is cut to 18 digits, and these times the longest unit have room in 128 bits.
-/

set_option autoImplicit false

namespace ConfigBinding

namespace Duration

open Checked (orRefuse ofReader word word?)

/-! ## Scanning -/

/-- Splits whole digits off a text, and fraction digits behind a point. -/
def checkedPoint (cs : List Char) : Checked Fault (List Char × List Char × List Char) := do
  let (whole, rest) ← Checked.cut (Text.leadingDigits cs) cs
  if rest.head? = some '.' then
    let (fraction, rest) ← Checked.cut (Text.leadingDigits rest.tail) rest.tail
    return (whole, fraction, rest)
  else return (whole, [], rest)

/-- Splits the first term off a text, without looking its unit up. -/
def checkedSplit (cs : List Char) : Checked Fault (Term × List Char) := do
  let (whole, fraction, rest) ← checkedPoint cs
  if whole.isEmpty && fraction.isEmpty then .error (.refused .noNumber)
  else
    let unitLength := (Text.findOffset? (fun c => c == '.' || c.isDigit) rest).getD
      (Text.byteLength rest)
    if unitLength = 0 then .error (.refused .missingUnit)
    else
      let (unit, rest) ← Checked.cut unitLength rest
      return (⟨whole, fraction, unit⟩, rest)

/-- A beginning of a text ends at a boundary. -/
theorem cut_takeWhile (p : Char → Bool) (cs : List Char) :
    (Checked.cut (Text.byteLength (cs.takeWhile p)) cs : Checked Fault _) =
      .ok (cs.takeWhile p, cs.dropWhile p) := by
  have hcut := Checked.cut_append (φ := Fault) (cs.takeWhile p) (cs.dropWhile p)
  rwa [List.takeWhile_append_dropWhile] at hcut

theorem checkedPoint_eq (cs : List Char) : checkedPoint cs = .ok (Decimal.splitPoint cs) := by
  unfold checkedPoint Decimal.splitPoint
  simp only [Text.leadingDigits_eq, cut_takeWhile, Checked.ok_bind]
  generalize cs.dropWhile Char.isDigit = rest
  by_cases hpoint : rest.head? = some '.'
  · obtain ⟨rest, rfl⟩ := List.head?_eq_some_iff.mp hpoint
    rfl
  · have hplain : ∀ ds, rest ≠ '.' :: ds := fun ds h => hpoint (by rw [h]; rfl)
    rw [if_neg hpoint]
    split
    · exact absurd rfl (hplain _)
    · rfl

theorem checkedSplit_eq (cs : List Char) : checkedSplit cs = ofReader (splitTerm cs) := by
  rw [checkedSplit, checkedPoint_eq, Checked.ok_bind, splitTerm]
  obtain ⟨whole, fraction, rest⟩ := Decimal.splitPoint cs
  have hunit :
      (Text.findOffset? (fun c => c == '.' || c.isDigit) rest).getD (Text.byteLength rest) =
        Text.byteLength (rest.takeWhile isUnitChar) := Text.findOffset?_getD _ rest
  simp only [hunit, Text.byteLength_eq_zero_iff, cut_takeWhile, Checked.ok_bind, List.isEmpty_iff]
  split_ifs <;> rfl

/-- A term is characters at the front of a text, one at least. -/
theorem byteLength_lt_of_splitTerm {cs rest : List Char} {term : Term}
    (h : splitTerm cs = .ok (term, rest)) : Text.byteLength rest < Text.byteLength cs := by
  obtain ⟨-, hunit, -, -, hcs⟩ := splitTerm_cases h
  have hpos : Text.byteLength term.unit ≠ 0 := mt Text.byteLength_eq_zero_iff.mp hunit
  rcases hcs with hcs | ⟨-, hcs⟩
  · simp only [hcs, Text.byteLength_append, Text.byteLength_cons]
    omega
  · simp only [hcs, Text.byteLength_append]
    omega

/-! ## Arithmetic -/

/-- The number of a run of digits, if it has 128 bits. There is none without digits, and none of
other characters. -/
def parsed? (cs : List Char) : Option Nat :=
  if cs.isEmpty || !cs.all Char.isDigit then none else word? (Decimal.value cs)

/-- The number of the digits before a point, of which there may be none. -/
def checkedCount (whole : List Char) : Checked Fault Nat :=
  if whole.isEmpty then .ok 0 else orRefuse .overflow (parsed? whole)

/-- The nanoseconds that a fraction adds. The power, the product and the quotient are taken as they
come. -/
def checkedShare (scale : Nat) (fraction : List Char) : Checked Fault Nat := do
  let (kept, _) ← Checked.cut (min (Text.byteLength fraction) maxFractionDigits) fraction
  let numerator ← orRefuse .overflow (parsed? kept)
  let denominator ← word (10 ^ (Text.byteLength kept % 2 ^ 32))
  let product ← word (numerator * scale)
  Checked.quotient product denominator

/-- The nanoseconds of a number in a unit. -/
def checkedNanos (scale : Nat) (whole fraction : List Char) : Checked Fault Nat := do
  let count ← checkedCount whole
  let nanos ← orRefuse .overflow (word? (count * scale))
  if fraction.isEmpty then return nanos
  else
    let share ← checkedShare scale fraction
    orRefuse .overflow (word? (nanos + share))

/-- The nanoseconds read so far with those of a term. -/
def checkedSum (total : Nat) (term : Term) : Checked Fault Nat := do
  let scale ← orRefuse .unknownUnit (unitNanos? term.unit)
  let nanos ← checkedNanos scale term.whole term.fraction
  orRefuse .overflow ((word? (total + nanos)).filter (· ≤ maxNanos))

theorem parsed?_of_digits {cs : List Char} (hne : cs ≠ []) (h : ∀ c ∈ cs, c.isDigit = true) :
    parsed? cs = word? (Decimal.value cs) := by
  have hcs : (cs.isEmpty || !cs.all Char.isDigit) = false := by
    simp [hne, List.all_eq_true.mpr h]
  rw [parsed?, hcs]
  rfl

theorem value_lt {cs : List Char} (h : ∀ c ∈ cs, c.isDigit = true) :
    Decimal.value cs < 10 ^ cs.length := by
  have hlt : ∀ d ∈ cs.map Decimal.digitValue, d < 10 := by
    intro d hd
    obtain ⟨c, hc, rfl⟩ := List.mem_map.mp hd
    exact (isDigit_ten_iff.mpr ⟨h c hc, rfl⟩).1
  rw [value_eq_positional, ← List.length_map Decimal.digitValue]
  exact positional_lt hlt

theorem scale_bounds {unit : List Char} {scale : Nat} (h : unitNanos? unit = some scale) :
    1 ≤ scale ∧ scale ≤ 3600000000000 := by
  have hunits : ∀ p ∈ units, 1 ≤ p.2 ∧ p.2 ≤ 3600000000000 := by decide
  exact hunits _ (mem_units_of_unitNanos? h)

/-- A fraction of 18 digits times the longest unit has room in 128 bits. -/
theorem checkedShare_eq {scale : Nat} (hscale : scale ≤ 3600000000000) {fraction : List Char}
    (hne : fraction ≠ []) (h : ∀ c ∈ fraction, c.isDigit = true) :
    checkedShare scale fraction = .ok (Decimal.value (fraction.take maxFractionDigits) * scale /
      10 ^ (fraction.take maxFractionDigits).length) := by
  have hascii : ∀ c ∈ fraction, c.toNat < 128 := fun c hc => Text.lt_of_isDigit (h c hc)
  set kept := fraction.take maxFractionDigits with hkept
  have hdigits : ∀ c ∈ kept, c.isDigit = true := fun c hc => h c (List.mem_of_mem_take hc)
  have hlen : kept.length ≤ 18 := List.length_take_le _ _
  have hbytes : Text.byteLength kept = kept.length :=
    Text.byteLength_of_ascii fun c hc => hascii c (List.mem_of_mem_take hc)
  have hcut : (Checked.cut (min (Text.byteLength fraction) maxFractionDigits) fraction :
      Checked Fault _) = .ok (kept, fraction.drop maxFractionDigits) := by
    have hcut := Checked.cut_append (φ := Fault) kept (fraction.drop maxFractionDigits)
    rwa [List.take_append_drop, hbytes, hkept, List.length_take, min_comm,
      ← Text.byteLength_of_ascii hascii] at hcut
  have hpow : 10 ^ kept.length ≤ 10 ^ 18 := Nat.pow_le_pow_right (by decide) hlen
  have hvalue : Decimal.value kept < 10 ^ 18 := (value_lt hdigits).trans_le hpow
  have hproduct : Decimal.value kept * scale ≤ 10 ^ 18 * 3600000000000 :=
    Nat.mul_le_mul hvalue.le hscale
  have hmax : 10 ^ 18 * 3600000000000 ≤ Numeral.maxMagnitude := by decide
  have hexponent : kept.length % 2 ^ 32 = kept.length := Nat.mod_eq_of_lt (by omega)
  have hkeptne : kept ≠ [] := by simp [hkept, hne, maxFractionDigits]
  have hparsed : parsed? kept = some (Decimal.value kept) := by
    rw [parsed?_of_digits hkeptne hdigits, Checked.word?_of_le (by omega)]
  simp only [checkedShare, hcut, hparsed, hbytes, hexponent, Checked.ok_bind, Checked.orRefuse_some,
    Checked.word_of_le (hpow.trans (by decide)), Checked.word_of_le (hproduct.trans hmax)]
  exact Checked.quotient_of_pos _ (Nat.pow_pos (by decide))

theorem checkedCount_eq {whole : List Char} (h : ∀ c ∈ whole, c.isDigit = true) :
    checkedCount whole = orRefuse .overflow (word? (Decimal.value whole)) := by
  cases whole with
  | nil => rfl
  | cons c cs =>
    rw [← parsed?_of_digits (List.cons_ne_nil c cs) h]
    rfl

/-- What is too large on the way is too large in the end, so the checks on the way come to one. -/
theorem checkedNanos_eq {scale : Nat} (hpos : 1 ≤ scale) (hscale : scale ≤ 3600000000000)
    {whole fraction : List Char} (hwhole : ∀ c ∈ whole, c.isDigit = true)
    (hfraction : ∀ c ∈ fraction, c.isDigit = true) :
    checkedNanos scale whole fraction =
      orRefuse .overflow (word? (termNanos scale whole fraction)) := by
  have hcount_le : Decimal.value whole ≤ Decimal.value whole * scale :=
    Nat.le_mul_of_pos_right _ hpos
  have hwhole_le : Decimal.value whole * scale ≤ termNanos scale whole fraction :=
    Nat.le_add_right _ _
  rw [checkedNanos, checkedCount_eq hwhole]
  rcases Nat.lt_or_ge Numeral.maxMagnitude (Decimal.value whole) with hlt | hle
  · rw [Checked.word?_of_lt hlt, Checked.word?_of_lt (by omega)]
    rfl
  rw [Checked.word?_of_le hle, Checked.orRefuse_some, Checked.ok_bind]
  rcases Nat.lt_or_ge Numeral.maxMagnitude (Decimal.value whole * scale) with hlt | hle
  · rw [Checked.word?_of_lt hlt, Checked.word?_of_lt (by omega)]
    rfl
  rw [Checked.word?_of_le hle, Checked.orRefuse_some, Checked.ok_bind]
  by_cases hne : fraction = []
  · subst hne
    have hterm : termNanos scale whole [] = Decimal.value whole * scale := by
      simp [termNanos, maxFractionDigits]
    rw [hterm, Checked.word?_of_le hle]
    rfl
  · rw [checkedShare_eq hscale hne hfraction, if_neg (by simpa using hne), Checked.ok_bind]
    rfl

theorem checkedSum_eq (total : Nat) {term : Term} (hwhole : ∀ c ∈ term.whole, c.isDigit = true)
    (hfraction : ∀ c ∈ term.fraction, c.isDigit = true) :
    checkedSum total term =
      ofReader (match unitNanos? term.unit with
        | none => .error .unknownUnit
        | some scale =>
          let sum := total + termNanos scale term.whole term.fraction
          if sum ≤ maxNanos then .ok sum else .error .overflow) := by
  rw [checkedSum]
  cases hunit : unitNanos? term.unit with
  | none => rfl
  | some scale =>
    obtain ⟨hpos, hscale⟩ := scale_bounds hunit
    have hmax : maxNanos ≤ Numeral.maxMagnitude := by decide
    simp only [orRefuse, Checked.ok_bind, checkedNanos_eq hpos hscale hwhole hfraction]
    set nanos := termNanos scale term.whole term.fraction
    rcases Nat.lt_or_ge Numeral.maxMagnitude nanos with hlt | hle
    · rw [Checked.word?_of_lt hlt, if_neg (by omega)]
      rfl
    rw [Checked.word?_of_le hle]
    simp only [Checked.ok_bind]
    split_ifs with hsum
    · rw [Checked.word?_of_le (hsum.trans hmax), Option.filter_some, decide_eq_true hsum]
      rfl
    · have hnone : (word? (total + nanos)).filter (fun n => decide (n ≤ maxNanos)) = none := by
        unfold word?
        split_ifs
        · rw [Option.filter_some, decide_eq_false hsum]
          rfl
        · rfl
      rw [hnone]
      rfl

/-! ## The loop -/

/-- Adds the terms of a text to `total`. A round that leaves as much text as it found would go on
for ever. -/
def checkedTerms (total : Nat) (cs : List Char) : Checked Fault Nat :=
  if cs.isEmpty then .ok total
  else
    match checkedSplit cs with
    | .error halt => .error halt
    | .ok (term, rest) =>
      match checkedSum total term with
      | .error halt => .error halt
      | .ok sum =>
        if Text.byteLength rest < Text.byteLength cs then checkedTerms sum rest
        else .error (.trapped .stalled)
termination_by Text.byteLength cs

theorem checkedTerms_eq (total : Nat) (cs : List Char) :
    checkedTerms total cs = ofReader (readTerms total cs) := by
  fun_induction readTerms total cs with
  | case1 total cs hcs => rw [checkedTerms, if_pos hcs]; rfl
  | case2 total cs hcs fault hsplit =>
    rw [checkedTerms, if_neg hcs, checkedSplit_eq, hsplit]
    rfl
  | case3 total cs hcs term rest hsplit hunit =>
    obtain ⟨-, -, hwhole, hfraction, -⟩ := splitTerm_cases hsplit
    rw [checkedTerms, if_neg hcs, checkedSplit_eq, hsplit, Checked.ofReader_ok]
    simp only [checkedSum_eq total hwhole hfraction, hunit]
    rfl
  | case4 total cs hcs term rest hsplit scale hunit sum hsum ih =>
    obtain ⟨-, -, hwhole, hfraction, -⟩ := splitTerm_cases hsplit
    rw [checkedTerms, if_neg hcs, checkedSplit_eq, hsplit, Checked.ofReader_ok]
    simp only [checkedSum_eq total hwhole hfraction, hunit]
    rw [if_pos hsum, Checked.ofReader_ok]
    simp only [byteLength_lt_of_splitTerm hsplit, ↓reduceIte]
    exact ih
  | case5 total cs hcs term rest hsplit scale hunit sum hsum =>
    obtain ⟨-, -, hwhole, hfraction, -⟩ := splitTerm_cases hsplit
    rw [checkedTerms, if_neg hcs, checkedSplit_eq, hsplit, Checked.ofReader_ok]
    simp only [checkedSum_eq total hwhole hfraction, hunit]
    rw [if_neg hsum]
    rfl

/-- Reads a duration. -/
def checkedRead (s : String) : Checked Fault Duration := do
  let (negative, rest) ← Checked.splitSign s.toList
  if rest = ['0'] then ofReader (ofNanos 0)
  else if rest.isEmpty then .error (.refused .empty)
  else
    let total ← checkedTerms 0 rest
    if negative && total != 0 then .error (.refused .negative)
    else ofReader (ofNanos total)

theorem read_eq (s : String) :
    read s = (readUnsigned (Decimal.splitSign s.toList).2).bind fun total =>
      if (Decimal.splitSign s.toList).1 && total != 0 then .error .negative else ofNanos total := by
  unfold read
  split
  · rename_i cs hs
    rw [hs, Decimal.splitSign]
    cases readUnsigned cs with
    | error fault => rfl
    | ok total =>
      by_cases hzero : total = 0
      · subst hzero
        rfl
      · simp [Except.bind, hzero]
  · rename_i cs hs
    rw [hs]
    rfl
  · rename_i hminus hplus
    rw [Decimal.splitSign_plain hminus hplus]
    rfl

/-- A duration is read by the bytes of its text as by its characters. -/
theorem checkedRead_eq (s : String) : checkedRead s = ofReader (read s) := by
  rw [checkedRead, Checked.splitSign_eq, Checked.ok_bind, read_eq]
  generalize Decimal.splitSign s.toList = split
  obtain ⟨negative, rest⟩ := split
  dsimp only
  rw [readUnsigned]
  split_ifs with hzero hempty
  · cases negative <;> rfl
  · rfl
  · rw [checkedTerms_eq]
    cases readTerms 0 rest with
    | error fault => rfl
    | ok total =>
      simp only [Checked.ofReader_ok, Checked.ok_bind, Except.bind]
      split_ifs <;> rfl

end Duration

/-- **Readers that stay within their bounds.** A cut goes wrong exactly if its offset is no position
between characters of the text. For every text, the readers of durations and of integers that work
on bytes and in 128 bits give what the readers of characters give, a value or a refusal, and so does
the comparison with a prefix: no cut is inside a character or beyond the end, no product, power or
negation is too large, nothing is divided by zero, and every round of the loop leaves less text. -/
theorem readers_never_trapped (s : String) :
    (∀ (φ : Type) (n : Nat),
      (Checked.cut n s.toList : Checked φ _) = .error (.trapped .offBoundary) ↔
        ¬ (⟨n⟩ : String.Pos.Raw).IsValid s) ∧
    Duration.checkedRead s = Checked.ofReader (Duration.read s) ∧
    Numeral.checkedSigned s.toList = Checked.ofReader (Numeral.readSigned s.toList) ∧
    Numeral.checkedUnsigned s.toList = Checked.ofReader (Numeral.readUnsigned s.toList) ∧
    Numeral.checkedMagnitude s.toList = Checked.ofReader (Numeral.readMagnitude s.toList) ∧
    (∀ mark : String, Numeral.checkedMark mark.toList s.toList =
      .ok (Numeral.afterMark? mark.toList s.toList)) ∧
    ∀ trap : Trap, Duration.checkedRead s ≠ .error (.trapped trap) ∧
      Numeral.checkedSigned s.toList ≠ .error (.trapped trap) ∧
      Numeral.checkedUnsigned s.toList ≠ .error (.trapped trap) ∧
      Numeral.checkedMagnitude s.toList ≠ .error (.trapped trap) := by
  have hduration := Duration.checkedRead_eq s
  have hsigned := Numeral.checkedSigned_eq s.toList
  have hunsigned := Numeral.checkedUnsigned_eq s.toList
  have hmagnitude := Numeral.checkedMagnitude_eq s.toList
  refine ⟨fun φ n => ?_, hduration, hsigned, hunsigned, hmagnitude,
    fun mark => Numeral.checkedMark_eq _ _, fun trap => ?_⟩
  · rw [← Text.isSome_cutAt?, Checked.cut]
    cases Text.cutAt? n s.toList <;> simp
  · rw [hduration, hsigned, hunsigned, hmagnitude]
    exact ⟨Checked.ofReader_ne_trapped _ trap, Checked.ofReader_ne_trapped _ trap,
      Checked.ofReader_ne_trapped _ trap, Checked.ofReader_ne_trapped _ trap⟩

end ConfigBinding
