import Mathlib.Data.List.Forall2
import ConfigBinding.Proofs.Kind.Integers
import ConfigBinding.Proofs.Text.Pieces

/-!
# Reading lists

A list text is cut at its commas, and its pieces are read in turn: all of them, or up to the first
that is refused, whose error is that of the list (`readPieces_eq_ok_iff`,
`readPieces_eq_error_iff`). Without maps in the way an error shows the very piece that was refused
(`shown?_of_refused`). Texts without commas can be written one after another with commas between
them and are read again as a list, but for the one text that is blank (`reads_lists`).
-/

set_option autoImplicit false

namespace ConfigBinding

/-- The raw text that an error shows, if it shows one. -/
def CoercionError.shown? : CoercionError → Option String
  | .malformed _ raw | .outOfRange _ raw | .duration raw _ | .unknownCode raw => some raw
  | .mapItem item => some item
  | .custom _ => none

namespace Kind

/-- Whether maps occur in a kind. -/
def hasMap : Kind → Bool
  | option k | list k => k.hasMap
  | hashMap _ _ | treeMap _ _ => true
  | _ => false

/-! ## Pieces in turn -/

section
variable {α : Type} {read : String → Except CoercionError α}

theorem readPieces_eq_ok_iff {ps : List String} {vs : List α} :
    readPieces read ps = .ok vs ↔ List.Forall₂ (fun p v => read p = .ok v) ps vs := by
  induction ps generalizing vs with
  | nil => cases vs <;> simp [readPieces]
  | cons p ps ih =>
    rw [readPieces]
    cases hp : read p with
    | error e => cases vs <;> simp [hp]
    | ok v =>
      cases hps : readPieces read ps with
      | error e => cases vs <;> simp [← ih, hp, hps]
      | ok us => cases vs <;> simp [← ih, hp, hps]

/-- The first piece that is refused decides the error. -/
theorem readPieces_eq_error_iff {ps : List String} {e : CoercionError} :
    readPieces read ps = .error e ↔ ∃ before p after, ps = before ++ p :: after ∧
      (∀ q ∈ before, ∃ v, read q = .ok v) ∧ read p = .error e := by
  induction ps with
  | nil => simp [readPieces]
  | cons p ps ih =>
    rw [readPieces]
    refine ⟨fun h => ?_, fun ⟨before, q, after, hsplit, hbefore, hq⟩ => ?_⟩
    · cases hp : read p with
      | error e' =>
        rw [hp] at h
        obtain rfl := Except.error.inj h
        exact ⟨[], p, ps, rfl, by simp, hp⟩
      | ok v =>
        cases hps : readPieces read ps with
        | ok us => simp [hp, hps] at h
        | error e' =>
          simp only [hp, hps, Except.error.injEq] at h
          obtain ⟨before, q, after, rfl, hbefore, hq⟩ := ih.mp (hps.trans (congrArg _ h))
          exact ⟨p :: before, q, after, rfl, List.forall_mem_cons.mpr ⟨⟨v, hp⟩, hbefore⟩, hq⟩
    · cases before with
      | nil =>
        obtain ⟨rfl, rfl⟩ := List.cons.inj hsplit
        rw [hq]
      | cons q' before =>
        obtain ⟨rfl, hps⟩ := List.cons.inj hsplit
        obtain ⟨⟨v, hv⟩, hrest⟩ := List.forall_mem_cons.mp hbefore
        rw [hv, ih.mpr ⟨before, q, after, hps, hrest, hq⟩]

theorem exists_readPieces_iff {ps : List String} :
    (∃ vs, readPieces read ps = .ok vs) ↔ ∀ p ∈ ps, ∃ v, read p = .ok v := by
  induction ps with
  | nil => simp [readPieces]
  | cons p ps ih =>
    rw [List.forall_mem_cons, ← ih, readPieces]
    cases hp : read p with
    | error e => simp
    | ok v => cases readPieces read ps <;> simp

end

/-! ## Lists of a kind -/

/-- Every kind but that of bytes is read piece by piece in a list. -/
theorem read_list {k : Kind} (hk : k ≠ int .u8) (raw : String) :
    (list k).read raw = readPieces k.read (itemsOf raw) := by
  cases k with
  | int t =>
    cases t with
    | u8 => exact absurd rfl hk
    | _ => rfl
  | _ => rfl

theorem itemsOf_of_blank {raw : String} (h : Text.allBlank raw = true) : itemsOf raw = [] :=
  if_pos h

theorem itemsOf_of_ink {raw : String} (h : Text.allBlank raw = false) :
    itemsOf raw = Text.pieces ',' raw := by
  rw [itemsOf, h]
  rfl

/-- An error of a kind without maps shows the text that was refused, or no text. -/
theorem shown?_of_refused {k : Kind} (hk : k.hasMap = false) {raw : String}
    (hraw : ',' ∉ raw.toList)
    {e : CoercionError} (h : k.read raw = .error e) :
    e.shown? = some raw ∨ ∃ message, e = .custom message := by
  induction k generalizing raw e with
  | text => cases h
  | path => cases h
  | bool =>
    rw [read_bool] at h
    cases htruth : Text.truth? raw with
    | none =>
      rw [htruth] at h
      cases h
      exact .inl rfl
    | some b =>
      rw [htruth] at h
      cases h
  | int t =>
    have h : readInt t raw = .error e := h
    rcases readInt_cases t raw with ⟨v, hv⟩ | hout | hmal
    · cases hv.symm.trans h
    · cases hout.symm.trans h
      exact .inl rfl
    · cases hmal.symm.trans h
      exact .inl rfl
  | float t =>
    have h : readFloat t raw = .error e := h
    unfold readFloat at h
    split at h
    · cases h
      exact .inl rfl
    · split at h <;> cases h
      exact .inl rfl
    · cases h
  | duration =>
    have h : readDuration raw = .error e := h
    unfold readDuration at h
    split at h <;> cases h
    exact .inl rfl
  | code =>
    have h : readCode raw = .error e := h
    unfold readCode at h
    split at h <;> cases h
    exact .inl rfl
  | level =>
    have h : readLevel raw = .error e := h
    unfold readLevel at h
    split at h <;> cases h
    exact .inr ⟨_, rfl⟩
  | option k ih =>
    have h : (k.read raw).map some = .error e := h
    cases hread : k.read raw with
    | ok v => simp [hread, Except.map] at h
    | error e' =>
      simp only [hread, Except.map, Except.error.injEq] at h
      exact ih hk hraw (h ▸ hread)
  | list k ih =>
    by_cases hbytes : k = int .u8
    · subst hbytes
      cases h
    · rw [read_list hbytes] at h
      cases hblank : Text.allBlank raw with
      | true =>
        rw [itemsOf_of_blank hblank] at h
        cases h
      | false =>
        -- The piece of a text without commas is the text.
        rw [itemsOf_of_ink hblank, Text.pieces_of_not_mem hraw] at h
        obtain ⟨before, p, after, hsplit, -, hp⟩ := readPieces_eq_error_iff.mp h
        have hmem : p ∈ [raw] := by rw [hsplit]; simp
        obtain rfl := List.mem_singleton.mp hmem
        exact ih hk hraw hp
  | hashMap => cases hk
  | treeMap => cases hk

/-- Texts that are blank when they are joined by commas are a single one. -/
theorem eq_join_of_blank {ps : List String} (hne : ps ≠ []) (h : ∀ p ∈ ps, ',' ∉ p.toList)
    (hblank : Text.allBlank (Text.join "," ps) = true) : ps = [Text.join "," ps] := by
  have hpieces := Text.pieces_of_allBlank (by decide : Text.isBlank ',' = false) hblank
  rwa [Text.pieces_join rfl hne h] at hpieces

theorem length_le_of_blank_join {ps : List String} (h : ∀ p ∈ ps, ',' ∉ p.toList)
    (hblank : Text.allBlank (Text.join "," ps) = true) : ps.length ≤ 1 := by
  by_cases hne : ps = []
  · simp [hne]
  · rw [eq_join_of_blank hne h hblank]
    exact Nat.le_refl 1

/-! ## Readers of lists -/

/-- What a reader of lists does with a text if `read` is the reader of its items. -/
structure ReadsItems {α : Type} (read : String → Except CoercionError α)
    (readList : String → Except CoercionError (List α)) : Prop where
  /-- A blank text has no items. -/
  blank : ∀ raw, Text.allBlank raw = true → readList raw = .ok []
  /-- Written items are read again, unless they are one that is blank. -/
  written : ∀ (encode : α → String) (xs : List α),
    (∀ x ∈ xs, read (encode x) = .ok x ∧ ',' ∉ (encode x).toList) →
    (Text.allBlank (Text.join "," (xs.map encode)) = false →
      readList (Text.join "," (xs.map encode)) = .ok xs) ∧
    (Text.allBlank (Text.join "," (xs.map encode)) = true → xs.length ≤ 1)
  /-- Every piece is an item as it stands. -/
  reads_iff : ∀ raw vs, Text.allBlank raw = false →
    (readList raw = .ok vs ↔ List.Forall₂ (fun p v => read p = .ok v) (Text.pieces ',' raw) vs)
  /-- No piece is refused if the text is not. -/
  accepts_iff : ∀ raw, Text.allBlank raw = false →
    ((∃ vs, readList raw = .ok vs) ↔ ∀ p ∈ Text.pieces ',' raw, ∃ v, read p = .ok v)
  /-- The first piece that is refused decides the error. -/
  refuses_iff : ∀ raw e, Text.allBlank raw = false →
    (readList raw = .error e ↔ ∃ before p after, Text.pieces ',' raw = before ++ p :: after ∧
      (∀ q ∈ before, ∃ v, read q = .ok v) ∧ read p = .error e)

theorem readsItems {α : Type} (read : String → Except CoercionError α) :
    ReadsItems read fun raw => readPieces read (itemsOf raw) where
  blank raw hblank := by
    rw [itemsOf_of_blank hblank]
    rfl
  written encode xs h := by
    have hcomma : ∀ p ∈ xs.map encode, ',' ∉ p.toList := by
      simpa using fun x hx => (h x hx).2
    refine ⟨fun hink => ?_, fun hblank => ?_⟩
    · have hne : xs.map encode ≠ [] := by
        intro hnil
        rw [hnil] at hink
        cases hink
      rw [itemsOf_of_ink hink, Text.pieces_join rfl hne hcomma, readPieces_eq_ok_iff,
        List.forall₂_map_left_iff, List.forall₂_same]
      exact fun x hx => (h x hx).1
    · have hlen := length_le_of_blank_join hcomma hblank
      rwa [List.length_map] at hlen
  reads_iff raw vs hink := by
    rw [itemsOf_of_ink hink, readPieces_eq_ok_iff]
  accepts_iff raw hink := by
    rw [itemsOf_of_ink hink, exists_readPieces_iff]
  refuses_iff raw e hink := by
    rw [itemsOf_of_ink hink, readPieces_eq_error_iff]

/-- The bytes of a text are those of its UTF-8 encoding. -/
theorem val_bytesOf (raw : String) :
    (bytesOf raw).map (·.val) = raw.toUTF8.data.toList.map fun b => (b.toNat : Int) := by
  have hbytes : Text.bytes raw = raw.toUTF8.data.toList := by
    rw [String.toUTF8, ← String.utf8Encode_toList, List.utf8Encode, List.data_toByteArray]
    rfl
  rw [bytesOf, hbytes, List.map_map]
  rfl

/-- **Lists.** Whatever the reader of the items is, a list is read from its items written with
commas between them, if each is read alone and has no comma, unless the text is blank: that one has
no items, and is never what two or more are written as. Any other text is read if all of its pieces
are, as they stand, and refused with the error of the first that is not. Every kind but that of
bytes is read so in a list, and where no map occurs in it, its errors show the piece. Texts come out
as the pieces, and bytes as the bytes of the text. -/
theorem reads_lists :
    (∀ (α : Type) (read : String → Except CoercionError α),
      ReadsItems read fun raw => readPieces read (itemsOf raw)) ∧
    (∀ k : Kind, k ≠ int .u8 → ReadsItems k.read (list k).read ∧
      (k.hasMap = false → ∀ p e, ',' ∉ p.toList → k.read p = .error e →
        e.shown? = some p ∨ ∃ message, e = .custom message)) ∧
    (∀ raw, Text.allBlank raw = false → ∃ ps : List String, (list text).read raw = .ok ps ∧
      ps ≠ [] ∧ (∀ p ∈ ps, ',' ∉ p.toList) ∧ Text.join "," ps = raw) ∧
    ∀ raw, ∃ bs : List IntType.u8.Value, (list (int .u8)).read raw = .ok bs ∧
      bs.map (·.val) = raw.toUTF8.data.toList.map fun b => (b.toNat : Int) := by
  refine ⟨fun _ => readsItems, fun k hk => ⟨?_, fun hmap p e hp => shown?_of_refused hmap hp⟩,
    fun raw hink => ?_, fun raw => ⟨bytesOf raw, rfl, val_bytesOf raw⟩⟩
  · rw [funext (read_list hk)]
    exact readsItems k.read
  · refine ⟨Text.pieces ',' raw, ?_, Text.pieces_ne_nil _ _, fun p => Text.not_mem_of_mem_pieces,
      Text.join_pieces rfl raw⟩
    rw [read_list (by nofun)]
    exact ((readsItems text.read).reads_iff raw _ hink).mpr (List.forall₂_same.mpr fun p _ => rfl)

/-- Two numbers with a comma between them, and a list whose second piece is no number. -/
theorem reads_lists_numbers :
    let k : Kind := option (int .i8)
    let xs : List (Option IntType.i8.Value) :=
      [some ⟨1, by decide, by decide⟩, some ⟨-2, by decide, by decide⟩]
    let encode : Option IntType.i8.Value → String := fun x =>
      if x.map (·.val) = some 1 then "1" else "-2"
    k ≠ int .u8 ∧ (∀ x ∈ xs, k.read (encode x) = .ok x ∧ ',' ∉ (encode x).toList) ∧
      Text.allBlank "1,-2" = false ∧ (list k).read "1,-2" = .ok xs ∧
      Text.allBlank "1,x,y" = false ∧ (list k).read "1,x,y" = .error (.malformed "i8" "x") ∧
      ∃ before after, Text.pieces ',' "1,x,y" = before ++ "x" :: after ∧
        ∀ q ∈ before, ∃ v, k.read q = .ok v := by
  intro k xs encode
  have hk : k ≠ int .u8 := nofun
  have hone : readInt .i8 "1" = .ok ⟨1, by decide, by decide⟩ := by decide
  have htwo : readInt .i8 "-2" = .ok ⟨-2, by decide, by decide⟩ := by decide
  have hxs : ∀ x ∈ xs, k.read (encode x) = .ok x ∧ ',' ∉ (encode x).toList := by
    intro x hx
    rcases List.mem_cons.mp hx with rfl | hx
    · exact ⟨congrArg (Except.map some) hone, by decide⟩
    · obtain rfl := List.mem_singleton.mp hx
      exact ⟨congrArg (Except.map some) htwo, by decide⟩
  have hrefused : (list k).read "1,x,y" = .error (.malformed "i8" "x") := rfl
  obtain ⟨-, hkinds, -⟩ := reads_lists
  obtain ⟨hread, hshown⟩ := hkinds k hk
  obtain ⟨before, p, after, hsplit, hbefore, hp⟩ :=
    (hread.refuses_iff "1,x,y" _ (by decide)).mp hrefused
  have hcomma : ',' ∉ p.toList := Text.not_mem_of_mem_pieces (by rw [hsplit]; simp)
  have hpx : p = "x" := by
    rcases hshown rfl p _ hcomma hp with h | ⟨message, h⟩
    · exact (Option.some.inj h).symm
    · cases h
  subst hpx
  exact ⟨hk, hxs, by decide, (hread.written encode xs hxs).1 (by decide), by decide, hrefused,
    before, after, hsplit, hbefore⟩

end Kind

end ConfigBinding
