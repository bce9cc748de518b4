import ConfigBinding.Proofs.Numeral.Digits
import ConfigBinding.Proofs.Text.Checked

/-!
# Integer literals, checked

The readers of integer literals as they work on the bytes of a text: a base prefix is compared with
as many bytes as it has, and taken off with a cut behind them; a zero in front is taken off with a
cut behind one byte; the magnitude of a negative literal is negated. None of this goes wrong
(`checkedSigned_eq`, `checkedUnsigned_eq`): what agrees with a prefix has its length, and a
magnitude that is negated has a bit to spare.
-/

set_option autoImplicit false

namespace ConfigBinding.Numeral

open Checked (ofReader)

variable {mark cs : List Char}

/-! ## Base prefixes -/

/-- What is left behind a prefix, in whatever case it is, found by as many bytes as the prefix
has. -/
def checkedMark (mark cs : List Char) : Checked Fault (Option (List Char)) :=
  match Text.cutAt? (Text.byteLength mark) cs with
  | none => return none
  | some (front, _) =>
    if front.map Char.toLower = mark.map Char.toLower then do
      let (_, rest) ← Checked.cut (Text.byteLength mark) cs
      return some rest
    else return none

/-- What is left behind a prefix, in whatever case it is. -/
def afterMark? (mark cs : List Char) : Option (List Char) :=
  if (cs.take mark.length).map Char.toLower = mark.map Char.toLower then
    some (cs.drop mark.length)
  else none

theorem utf8Size_toLower (c : Char) : c.toLower.utf8Size = c.utf8Size := by
  by_cases hc : c.toNat < 128
  · have hlower : ∀ n < 128, (Char.ofNat n).toLower.utf8Size = (Char.ofNat n).utf8Size := by
      decide +kernel
    have hsize := hlower c.toNat hc
    rwa [Char.ofNat_toNat] at hsize
  · rw [toLower_of_not_ascii hc]

theorem byteLength_map_toLower (cs : List Char) :
    Text.byteLength (cs.map Char.toLower) = Text.byteLength cs := by
  induction cs with
  | nil => rfl
  | cons c cs ih =>
    rw [List.map_cons, Text.byteLength_cons, Text.byteLength_cons, utf8Size_toLower, ih]

/-- Comparing bytes and comparing characters comes to the same. -/
theorem checkedMark_eq (mark cs : List Char) : checkedMark mark cs = .ok (afterMark? mark cs) := by
  -- A front that agrees with the prefix is as long as it, in bytes and in characters.
  have hfront : ∀ front rest, cs = front ++ rest →
      front.map Char.toLower = mark.map Char.toLower →
      Text.cutAt? (Text.byteLength mark) cs = some (front, rest) ∧
        afterMark? mark cs = some rest := by
    rintro front rest rfl hmark
    have hbytes : Text.byteLength front = Text.byteLength mark := by
      rw [← byteLength_map_toLower, hmark, byteLength_map_toLower]
    have hlength : front.length = mark.length := by simpa using congrArg List.length hmark
    rw [← hbytes]
    refine ⟨Text.cutAt?_append front rest, ?_⟩
    simp [afterMark?, ← hlength, hmark]
  have hsplit : cs = cs.take mark.length ++ cs.drop mark.length := (List.take_append_drop _ _).symm
  unfold checkedMark Checked.cut
  cases hcut : Text.cutAt? (Text.byteLength mark) cs with
  | none =>
    have hnone : afterMark? mark cs = none := if_neg fun h => by
      rw [(hfront _ _ hsplit h).1] at hcut
      cases hcut
    rw [hnone]
    rfl
  | some p =>
    obtain ⟨front, rest⟩ := p
    dsimp only
    split_ifs with hmark
    · obtain ⟨hcs, -⟩ := Text.cutAt?_eq_some_iff.mp hcut
      rw [(hfront front rest hcs hmark).2]
      rfl
    · have hnone : afterMark? mark cs = none := if_neg fun h => by
        rw [(hfront _ _ hsplit h).1] at hcut
        cases hcut
        exact hmark h
      rw [hnone]
      rfl

/-- Splits the base prefix off a literal without sign. -/
def checkedSpelling (cs : List Char) : Checked Fault Spelling := do
  match ← checkedMark ['0', 'x'] cs with
  | some rest => return ⟨16, true, rest⟩
  | none =>
    match ← checkedMark ['0', 'o'] cs with
    | some rest => return ⟨8, true, rest⟩
    | none =>
      match ← checkedMark ['0', 'b'] cs with
      | some rest => return ⟨2, true, rest⟩
      | none =>
        if 1 < Text.byteLength cs ∧ cs.head? = some '0' then
          let (_, rest) ← Checked.cut 1 cs
          return ⟨8, true, rest⟩
        else return ⟨10, false, cs⟩

theorem toLower_eq_iff {c m : Char} (hm : m = '0' ∨ m = 'x' ∨ m = 'o' ∨ m = 'b') :
    c.toLower = m ↔ c = m ∨ c = m.toUpper := by
  by_cases hc : c.toNat < 128
  · have hascii : ∀ n < 128,
        ((Char.ofNat n).toLower = m ↔ Char.ofNat n = m ∨ Char.ofNat n = m.toUpper) := by
      rcases hm with rfl | rfl | rfl | rfl <;> decide +kernel
    have hiff := hascii c.toNat hc
    rwa [Char.ofNat_toNat] at hiff
  · -- Neither form of a letter of a prefix is beyond ASCII.
    have hupper : m.toUpper.toNat < 128 := by
      rcases hm with rfl | rfl | rfl | rfl <;> decide
    rw [toLower_of_not_ascii hc]
    refine ⟨.inl, fun h => h.resolve_right ?_⟩
    rintro rfl
    exact hc hupper

theorem afterMark?_cons_cons {m c d : Char} (hm : m = '0' ∨ m = 'x' ∨ m = 'o' ∨ m = 'b')
    (rest : List Char) :
    afterMark? ['0', m] (c :: d :: rest) =
      if c = '0' ∧ (d = m ∨ d = m.toUpper) then some rest else none := by
  have hzero : c.toLower = '0' ↔ c = '0' := by
    rw [toLower_eq_iff (.inl rfl)]
    exact or_self_iff
  have hplain : '0'.toLower = '0' ∧ m.toLower = m := by
    rcases hm with rfl | rfl | rfl | rfl <;> decide
  simp [afterMark?, hzero, hplain, toLower_eq_iff hm]

theorem checkedSpelling_eq (cs : List Char) : checkedSpelling cs = .ok (Spelling.ofChars cs) := by
  simp only [checkedSpelling, checkedMark_eq, Checked.ok_bind]
  match cs with
  | [] => rfl
  | [c] =>
    have hshort : ∀ m, afterMark? ['0', m] [c] = none := fun m => by simp [afterMark?]
    have hlen : ¬ (1 < Text.byteLength [c] ∧ [c].head? = some '0') := by
      rintro ⟨hlt, hc⟩
      obtain rfl := Option.some.inj hc
      exact absurd hlt (by decide)
    simp only [hshort, hlen, ↓reduceIte]
    rw [Spelling.ofChars]
    · rfl
    · nofun
  | c :: d :: rest =>
    by_cases hc : c = '0'
    · subst hc
      have hlen : 1 < Text.byteLength ('0' :: d :: rest) ∧
          ('0' :: d :: rest).head? = some '0' := by
        refine ⟨?_, rfl⟩
        have hzero : '0'.utf8Size = 1 := by decide
        have hd := d.utf8Size_pos
        rw [Text.byteLength_cons, Text.byteLength_cons]
        omega
      have hupper : 'x'.toUpper = 'X' ∧ 'o'.toUpper = 'O' ∧ 'b'.toUpper = 'B' := by decide
      have hcut := Checked.cut_one (φ := Fault) (by decide : '0'.toNat < 128) (d :: rest)
      rw [afterMark?_cons_cons (by decide), afterMark?_cons_cons (by decide),
        afterMark?_cons_cons (by decide), hupper.1, hupper.2.1, hupper.2.2, Spelling.ofChars]
      simp only [true_and, hlen, and_self, ↓reduceIte, hcut, Checked.ok_bind]
      split_ifs <;> rfl
    · have hnone : ∀ m, m = '0' ∨ m = 'x' ∨ m = 'o' ∨ m = 'b' →
          afterMark? ['0', m] (c :: d :: rest) = none := fun m hm => by
        rw [afterMark?_cons_cons hm, if_neg fun h => hc h.1]
      have hhead : ¬ (1 < Text.byteLength (c :: d :: rest) ∧
          (c :: d :: rest).head? = some '0') := fun h => hc (Option.some.inj h.2)
      rw [hnone 'x' (by decide), hnone 'o' (by decide), hnone 'b' (by decide)]
      simp only [hhead, ↓reduceIte]
      rw [Spelling.ofChars]
      · rfl
      · exact fun d' rest' h => hc (List.cons.inj h).1

/-! ## Magnitudes and signs -/

/-- Reads a literal without sign. -/
def checkedMagnitude (cs : List Char) : Checked Fault Nat := do
  let spelling ← checkedSpelling cs
  ofReader <|
    if spelling.body.isEmpty || !separatorsFit spelling.prefixed spelling.body then
      .error .malformed
    else
      readDigits spelling.base 0 spelling.body

/-- Reads a literal that may have one sign. -/
def checkedSigned (cs : List Char) : Checked Fault Int := do
  let (negative, body) ← Checked.splitSign cs
  let magnitude ← checkedMagnitude body
  if magnitude ≤ maxSignedMagnitude then
    if negative then Checked.negate (Int.ofNat magnitude) else return Int.ofNat magnitude
  else .error (.refused .tooLarge)

/-- Reads a literal that may not have a sign. -/
def checkedUnsigned (cs : List Char) : Checked Fault Nat :=
  if cs.head? = some '+' ∨ cs.head? = some '-' then .error (.refused .malformed)
  else checkedMagnitude cs

theorem checkedMagnitude_eq (cs : List Char) :
    checkedMagnitude cs = ofReader (readMagnitude cs) := by
  rw [checkedMagnitude, checkedSpelling_eq, Checked.ok_bind]
  rfl

/-- A literal without sign is read by its bytes as by its characters. -/
theorem checkedUnsigned_eq (cs : List Char) : checkedUnsigned cs = ofReader (readUnsigned cs) := by
  unfold readUnsigned
  split
  · rfl
  · rfl
  · rename_i hplus hminus
    rw [checkedUnsigned, if_neg, checkedMagnitude_eq]
    rintro (h | h)
    · obtain ⟨rest, rfl⟩ := List.head?_eq_some_iff.mp h
      exact hplus rest rfl
    · obtain ⟨rest, rfl⟩ := List.head?_eq_some_iff.mp h
      exact hminus rest rfl

theorem readSigned_eq (cs : List Char) :
    readSigned cs = (readSignable (Decimal.splitSign cs).2).map fun n =>
      if (Decimal.splitSign cs).1 then -Int.ofNat n else Int.ofNat n := by
  unfold readSigned
  split
  · rfl
  · rfl
  · rename_i hminus hplus
    rw [Decimal.splitSign_plain hminus hplus]
    rfl

/-- A literal with a sign is read by its bytes as by its characters: its magnitude can be
negated. -/
theorem checkedSigned_eq (cs : List Char) : checkedSigned cs = ofReader (readSigned cs) := by
  rw [checkedSigned, Checked.splitSign_eq, Checked.ok_bind, readSigned_eq]
  generalize Decimal.splitSign cs = split
  obtain ⟨negative, body⟩ := split
  dsimp only
  rw [checkedMagnitude_eq, readSignable]
  cases readMagnitude body with
  | error fault => rfl
  | ok n =>
    simp only [Checked.ofReader_ok, Checked.ok_bind, Checked.negate_ofNat, Checked.pure_eq_ok]
    split_ifs <;> rfl

end ConfigBinding.Numeral
