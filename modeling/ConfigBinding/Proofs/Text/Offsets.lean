import ConfigBinding.Text.Utf8

/-!
# Byte offsets

A text can be cut at the byte offsets at which its characters begin, and at its end (`cutAt?`,
`isSome_cutAt?`). The number of bytes of a beginning is such an offset (`cutAt?_eq_some_iff`), and
so are those that scans over bytes or characters find: digits are bytes of their own, and no byte of
a longer character looks like one (`leadingDigits_eq`), and a search ends where a character begins
(`findOffset?_getD`).
-/

set_option autoImplicit false

namespace ConfigBinding.Text

/-! ## Lengths -/

@[simp] theorem byteLength_nil : byteLength [] = 0 := rfl

@[simp] theorem byteLength_cons (c : Char) (cs : List Char) :
    byteLength (c :: cs) = c.utf8Size + byteLength cs := rfl

@[simp] theorem byteLength_append (cs ds : List Char) :
    byteLength (cs ++ ds) = byteLength cs + byteLength ds := by
  induction cs with
  | nil => rw [List.nil_append, byteLength_nil, Nat.zero_add]
  | cons c cs ih => rw [List.cons_append, byteLength_cons, byteLength_cons, ih, Nat.add_assoc]

theorem byteLength_eq_zero_iff {cs : List Char} : byteLength cs = 0 ↔ cs = [] := by
  cases cs with
  | nil => simp
  | cons c cs =>
    have hpos := c.utf8Size_pos
    simp only [byteLength_cons, reduceCtorEq, iff_false]
    omega

theorem utf8ByteSize_ofList (cs : List Char) : (String.ofList cs).utf8ByteSize = byteLength cs := by
  rw [← String.size_toByteArray, String.toByteArray_ofList]
  have hlength := length_bytes (String.ofList cs)
  rw [bytes, String.toList_ofList] at hlength
  rw [← hlength, List.utf8Encode, List.size_toByteArray]

theorem utf8Size_eq_one {c : Char} (h : c.toNat < 128) : c.utf8Size = 1 :=
  Char.utf8Size_eq_one_iff.mpr (Nat.le_of_lt_succ h)

/-- Characters of ASCII take one byte each. -/
theorem byteLength_of_ascii {cs : List Char} (h : ∀ c ∈ cs, c.toNat < 128) :
    byteLength cs = cs.length := by
  induction cs with
  | nil => rfl
  | cons c cs ih =>
    obtain ⟨hc, hcs⟩ := List.forall_mem_cons.mp h
    rw [byteLength_cons, utf8Size_eq_one hc, ih hcs, List.length_cons, Nat.add_comm]

/-! ## Cutting -/

/-- The two sides of a byte offset, unless it is inside a character or beyond the end. -/
def cutAt? : Nat → List Char → Option (List Char × List Char)
  | 0, cs => some ([], cs)
  | _ + 1, [] => none
  | n + 1, c :: cs =>
    if c.utf8Size ≤ n + 1 then
      (cutAt? (n + 1 - c.utf8Size) cs).map fun p => (c :: p.1, p.2)
    else none

theorem cutAt?_append (cs ds : List Char) : cutAt? (byteLength cs) (cs ++ ds) = some (cs, ds) := by
  induction cs with
  | nil => cases ds <;> rfl
  | cons c cs ih =>
    obtain ⟨n, hn⟩ : ∃ n, byteLength (c :: cs) = n + 1 :=
      ⟨byteLength (c :: cs) - 1, by have := c.utf8Size_pos; rw [byteLength_cons]; omega⟩
    have hle : c.utf8Size ≤ n + 1 := by rw [← hn, byteLength_cons]; omega
    have hrest : n + 1 - c.utf8Size = byteLength cs := by rw [← hn, byteLength_cons]; omega
    rw [hn, List.cons_append, cutAt?, if_pos hle, hrest, ih]
    rfl

theorem cutAt?_eq_some_iff {n : Nat} {cs before after : List Char} :
    cutAt? n cs = some (before, after) ↔ cs = before ++ after ∧ byteLength before = n := by
  refine ⟨fun h => ?_, fun ⟨hcs, hn⟩ => ?_⟩
  · fun_induction cutAt? n cs generalizing before after with
    | case1 cs =>
      cases h
      exact ⟨rfl, rfl⟩
    | case2 => cases h
    | case3 n c cs hle ih =>
      obtain ⟨⟨p, q⟩, hcut, hpair⟩ := Option.map_eq_some_iff.mp h
      obtain ⟨rfl, hlength⟩ := ih hcut
      cases hpair
      exact ⟨rfl, by rw [byteLength_cons, hlength]; omega⟩
    | case4 => cases h
  · rw [hcs, ← hn, cutAt?_append]

/-- A text can be cut at the valid positions in it, and nowhere else. -/
theorem isSome_cutAt? {n : Nat} {s : String} :
    (cutAt? n s.toList).isSome = true ↔ (⟨n⟩ : String.Pos.Raw).IsValid s := by
  rw [String.Pos.Raw.isValid_iff_exists_append, Option.isSome_iff_exists]
  constructor
  · rintro ⟨⟨before, after⟩, hcut⟩
    obtain ⟨hs, hn⟩ := cutAt?_eq_some_iff.mp hcut
    refine ⟨String.ofList before, String.ofList after, ?_, ?_⟩
    · rw [← String.ofList_append, ← hs, String.ofList_toList]
    · rw [String.Pos.Raw.ext_iff, String.byteIdx_rawEndPos, utf8ByteSize_ofList, hn]
  · rintro ⟨before, after, rfl, hpos⟩
    have hn : byteLength before.toList = n := by
      rw [← utf8ByteSize_ofList, String.ofList_toList]
      exact (String.Pos.Raw.ext_iff.mp hpos).symm
    exact ⟨_, cutAt?_eq_some_iff.mpr ⟨String.toList_append, hn⟩⟩

/-! ## Bytes -/

/-- The bytes of a list of characters. -/
def encode (cs : List Char) : List UInt8 :=
  cs.flatMap String.utf8EncodeChar

theorem encode_cons (c : Char) (cs : List Char) :
    encode (c :: cs) = String.utf8EncodeChar c ++ encode cs := rfl

theorem utf8EncodeChar_ascii {c : Char} (h : c.toNat < 128) :
    String.utf8EncodeChar c = [c.toNat.toUInt8] := by
  rw [String.utf8EncodeChar_eq_singleton (utf8Size_eq_one h)]
  rfl

/-- A longer character begins with a byte that is not of ASCII. -/
theorem utf8EncodeChar_wide {c : Char} (h : 128 ≤ c.toNat) :
    ∃ b bs, String.utf8EncodeChar c = b :: bs ∧ 128 ≤ b.toNat := by
  have hmark : ∀ a m : UInt8, 128 ≤ m.toNat → 128 ≤ (a ||| m).toNat := fun a m hm => by
    rw [UInt8.toNat_or]
    exact Nat.le_trans hm Nat.right_le_or
  have hone : c.utf8Size ≠ 1 := fun hsize =>
    absurd (Char.utf8Size_eq_one_iff.mp hsize) (Nat.not_le.mpr h)
  have hcases : c.utf8Size = 2 ∨ c.utf8Size = 3 ∨ c.utf8Size = 4 := by
    have hpos := c.utf8Size_pos
    have hle := c.utf8Size_le_four
    omega
  rcases hcases with hsize | hsize | hsize
  · exact ⟨_, _, String.utf8EncodeChar_eq_cons_cons hsize, hmark _ _ (by decide)⟩
  · exact ⟨_, _, String.utf8EncodeChar_eq_cons_cons_cons hsize, hmark _ _ (by decide)⟩
  · exact ⟨_, _, String.utf8EncodeChar_eq_cons_cons_cons_cons hsize, hmark _ _ (by decide)⟩

/-- The first byte tells a character of ASCII. -/
theorem head?_encode_cons_iff {c d : Char} (hd : d.toNat < 128) (cs : List Char) :
    (encode (c :: cs)).head? = some d.toNat.toUInt8 ↔ c = d := by
  have hbyte : ∀ n < 128, (n.toUInt8).toNat = n := fun n hn => Nat.mod_eq_of_lt (by omega)
  by_cases hc : c.toNat < 128
  · rw [encode_cons, utf8EncodeChar_ascii hc, List.singleton_append, List.head?_cons,
      Option.some.injEq, ← UInt8.toNat_inj, hbyte _ hc, hbyte _ hd, Char.toNat_inj]
  · obtain ⟨b, bs, hbytes, hb⟩ := utf8EncodeChar_wide (Nat.le_of_not_lt hc)
    rw [encode_cons, hbytes, List.cons_append, List.head?_cons, Option.some.injEq]
    refine ⟨fun h => ?_, fun h => absurd (h ▸ hd) hc⟩
    rw [h, hbyte _ hd] at hb
    omega

/-- Whether a byte is a decimal digit. -/
def isDigitByte (b : UInt8) : Bool :=
  '0'.toNat ≤ b.toNat && b.toNat ≤ '9'.toNat

/-- How many bytes at the front are decimal digits. -/
def leadingDigits (cs : List Char) : Nat :=
  ((encode cs).takeWhile isDigitByte).length

theorem isDigitByte_ascii : ∀ n < 128, isDigitByte n.toUInt8 = (Char.ofNat n).isDigit := by
  decide +kernel

theorem not_isDigitByte_wide {b : UInt8} (h : 128 ≤ b.toNat) : isDigitByte b = false := by
  have hnine : '9'.toNat = 57 := rfl
  rw [isDigitByte, hnine, Bool.and_eq_false_iff]
  exact .inr (decide_eq_false (by omega))

theorem toNat_le_of_isDigit {c : Char} (h : c.isDigit = true) : c.toNat ≤ '9'.toNat := by
  have h : (c.val ≥ '0'.val && c.val ≤ '9'.val) = true := h
  simp only [Bool.and_eq_true, decide_eq_true_eq] at h
  exact h.2

theorem lt_of_isDigit {c : Char} (h : c.isDigit = true) : c.toNat < 128 :=
  Nat.lt_of_le_of_lt (toNat_le_of_isDigit h) (by decide)

theorem leadingDigits_eq (cs : List Char) :
    leadingDigits cs = byteLength (cs.takeWhile Char.isDigit) := by
  unfold leadingDigits
  induction cs with
  | nil => rfl
  | cons c cs ih =>
    rw [encode_cons, List.takeWhile_cons]
    by_cases hc : c.toNat < 128
    · have hdigit := isDigitByte_ascii c.toNat hc
      rw [Char.ofNat_toNat] at hdigit
      rw [utf8EncodeChar_ascii hc, List.singleton_append, List.takeWhile_cons, hdigit]
      split
      · rw [List.length_cons, ih, byteLength_cons, utf8Size_eq_one hc, Nat.add_comm]
      · rfl
    · obtain ⟨b, bs, hbytes, hb⟩ := utf8EncodeChar_wide (Nat.le_of_not_lt hc)
      rw [hbytes, List.cons_append, List.takeWhile_cons, not_isDigitByte_wide hb,
        if_neg fun h => hc (lt_of_isDigit h)]
      rfl

/-! ## Searching -/

/-- The byte offset of the first character of a class. -/
def findOffset? (p : Char → Bool) : List Char → Option Nat
  | [] => none
  | c :: cs => if p c then some 0 else (findOffset? p cs).map (c.utf8Size + ·)

theorem findOffset?_getD (p : Char → Bool) (cs : List Char) :
    (findOffset? p cs).getD (byteLength cs) = byteLength (cs.takeWhile fun c => !p c) := by
  induction cs with
  | nil => rfl
  | cons c cs ih =>
    rw [findOffset?, List.takeWhile_cons]
    cases hc : p c with
    | true => rfl
    | false =>
      simp only [Bool.false_eq_true, ↓reduceIte, Bool.not_false, byteLength_cons, ← ih]
      cases findOffset? p cs <;> rfl

end ConfigBinding.Text
