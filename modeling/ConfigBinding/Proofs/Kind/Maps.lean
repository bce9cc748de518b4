import ConfigBinding.Proofs.Kind.Entries
import ConfigBinding.Proofs.Kind.Lists
import ConfigBinding.Proofs.Kind.Order

/-!
# Reading maps

An item of a map text is an entry if it has one colon and its sides are read as key and value
(`IsEntry`); otherwise it is refused, for its colons, its key or its value, in this order
(`Refuses`). The entries of a text are read as the pieces of a list are. Hashed maps and tree maps
are made of the same entries, so they are read from the same texts, and have the same values for the
same keys (`reads_maps`).
-/

set_option autoImplicit false

namespace ConfigBinding.Kind

/-! ## Items -/

section
variable {α β : Type} (readKey : String → Except CoercionError α)
  (readValue : String → Except CoercionError β)

/-- An item that is read as an entry. -/
inductive IsEntry : String → α × β → Prop
  | sides {a b : String} {k : α} {v : β} : ':' ∉ a.toList → ':' ∉ b.toList → readKey a = .ok k →
      readValue b = .ok v → IsEntry (a ++ ":" ++ b) (k, v)

/-- An item that is not, and what it is refused for. -/
inductive Refuses : String → CoercionError → Prop
  | colons {item : String} : item.toList.count ':' ≠ 1 → Refuses item (.mapItem item)
  | key {a b : String} {e : CoercionError} : ':' ∉ a.toList → ':' ∉ b.toList →
      readKey a = .error e → Refuses (a ++ ":" ++ b) e
  | value {a b : String} {k : α} {e : CoercionError} : ':' ∉ a.toList → ':' ∉ b.toList →
      readKey a = .ok k → readValue b = .error e → Refuses (a ++ ":" ++ b) e

/-- The first of some items that is no entry is refused. -/
def FirstRefused (items : List String) (e : CoercionError) : Prop :=
  ∃ before item after, items = before ++ item :: after ∧
    (∀ q ∈ before, ∃ d, IsEntry readKey readValue q d) ∧ Refuses readKey readValue item e

end

section
variable {α β : Type} {readKey : String → Except CoercionError α}
  {readValue : String → Except CoercionError β}

theorem pieces_colon_iff {item a b : String} :
    Text.pieces ':' item = [a, b] ↔ ':' ∉ a.toList ∧ ':' ∉ b.toList ∧ item = a ++ ":" ++ b := by
  have hsep : ":".toList = [':'] := rfl
  have hjoin : Text.join ":" [a, b] = a ++ ":" ++ b := rfl
  rw [Text.pieces_eq_iff hsep, hjoin]
  simp [and_assoc]

theorem readEntry_sides {a b : String} (ha : ':' ∉ a.toList) (hb : ':' ∉ b.toList) :
    readEntry readKey readValue (a ++ ":" ++ b) =
      (readKey a).bind fun k => (readValue b).map fun v => (k, v) := by
  have hpieces : Text.pieces ':' (a ++ ":" ++ b) = [a, b] := pieces_colon_iff.mpr ⟨ha, hb, rfl⟩
  cases hk : readKey a with
  | error e => simp [readEntry, hpieces, hk, Except.bind]
  | ok k => cases hv : readValue b <;> simp [readEntry, hpieces, hk, hv, Except.bind, Except.map]

/-- An item has one colon between two sides, or is refused as it stands. -/
theorem item_cases (readKey : String → Except CoercionError α)
    (readValue : String → Except CoercionError β) (item : String) :
    (∃ a b, ':' ∉ a.toList ∧ ':' ∉ b.toList ∧ item = a ++ ":" ++ b) ∨
      item.toList.count ':' ≠ 1 ∧ readEntry readKey readValue item = .error (.mapItem item) := by
  have hlen := Text.length_pieces ':' item
  unfold readEntry
  split
  · rename_i a b hpieces
    exact .inl ⟨a, b, pieces_colon_iff.mp hpieces⟩
  · rename_i hpieces
    refine .inr ⟨fun hcount => ?_, rfl⟩
    rw [hcount] at hlen
    obtain ⟨a, b, hab⟩ := List.length_eq_two.mp hlen
    exact hpieces a b hab

theorem count_colon {a b : String} (ha : ':' ∉ a.toList) (hb : ':' ∉ b.toList) :
    (a ++ ":" ++ b).toList.count ':' = 1 := by
  simp [List.count_eq_zero.mpr ha, List.count_eq_zero.mpr hb]

theorem readEntry_eq_ok_iff {item : String} {d : α × β} :
    readEntry readKey readValue item = .ok d ↔ IsEntry readKey readValue item d := by
  refine ⟨fun h => ?_, fun ⟨ha, hb, hk, hv⟩ => ?_⟩
  · rcases item_cases readKey readValue item with ⟨a, b, ha, hb, rfl⟩ | ⟨-, herr⟩
    · rw [readEntry_sides ha hb] at h
      cases hk : readKey a with
      | error e => simp [hk, Except.bind] at h
      | ok k =>
        cases hv : readValue b with
        | error e => simp [hk, hv, Except.bind, Except.map] at h
        | ok v =>
          simp only [hk, hv, Except.bind, Except.map, Except.ok.injEq] at h
          exact h ▸ .sides ha hb hk hv
    · cases herr.symm.trans h
  · rw [readEntry_sides ha hb, hk, hv]
    rfl

theorem readEntry_eq_error_iff {item : String} {e : CoercionError} :
    readEntry readKey readValue item = .error e ↔ Refuses readKey readValue item e := by
  refine ⟨fun h => ?_, fun h => ?_⟩
  · rcases item_cases readKey readValue item with ⟨a, b, ha, hb, rfl⟩ | ⟨hcount, herr⟩
    · rw [readEntry_sides ha hb] at h
      cases hk : readKey a with
      | error e' =>
        simp only [hk, Except.bind, Except.error.injEq] at h
        exact .key ha hb (hk.trans (congrArg _ h))
      | ok k =>
        cases hv : readValue b with
        | error e' =>
          simp only [hk, hv, Except.bind, Except.map, Except.error.injEq] at h
          exact .value ha hb hk (hv.trans (congrArg _ h))
        | ok v => simp [hk, hv, Except.bind, Except.map] at h
    · cases herr.symm.trans h
      exact .colons hcount
  · cases h with
    | colons hcount =>
      rcases item_cases readKey readValue item with ⟨a, b, ha, hb, rfl⟩ | ⟨-, herr⟩
      · exact absurd (count_colon ha hb) hcount
      · exact herr
    | key ha hb hk =>
      rw [readEntry_sides ha hb, hk]
      rfl
    | value ha hb hk hv =>
      rw [readEntry_sides ha hb, hk, hv]
      rfl

/-! ## Items in turn -/

theorem readEntries_eq_ok_iff {items : List String} {es : List (α × β)} :
    readPieces (readEntry readKey readValue) items = .ok es ↔
      List.Forall₂ (IsEntry readKey readValue) items es := by
  simp only [readPieces_eq_ok_iff, readEntry_eq_ok_iff]

theorem readEntries_eq_error_iff {items : List String} {e : CoercionError} :
    readPieces (readEntry readKey readValue) items = .error e ↔
      FirstRefused readKey readValue items e := by
  simp only [readPieces_eq_error_iff, readEntry_eq_ok_iff, readEntry_eq_error_iff, FirstRefused]

theorem exists_readEntries_iff {items : List String} :
    (∃ es, readPieces (readEntry readKey readValue) items = .ok es) ↔
      ∀ item ∈ items, ∃ d, IsEntry readKey readValue item d := by
  simp only [exists_readPieces_iff, readEntry_eq_ok_iff]

/-! ## Written entries -/

/-- A text from which a value is read back, and which can stand in an item. -/
structure ReadsBack (read : String → Except CoercionError α) (encode : α → String) (x : α) :
    Prop where
  read_encode : read (encode x) = .ok x
  comma_not_mem : ',' ∉ (encode x).toList
  colon_not_mem : ':' ∉ (encode x).toList

/-- The text of an entry. -/
def entryText (encodeKey : α → String) (encodeValue : β → String) (d : α × β) : String :=
  encodeKey d.1 ++ ":" ++ encodeValue d.2

variable {encodeKey : α → String} {encodeValue : β → String}

theorem isEntry_entryText {d : α × β} (hk : ReadsBack readKey encodeKey d.1)
    (hv : ReadsBack readValue encodeValue d.2) :
    IsEntry readKey readValue (entryText encodeKey encodeValue d) d :=
  .sides hk.colon_not_mem hv.colon_not_mem hk.read_encode hv.read_encode

theorem comma_not_mem_entryText {d : α × β} (hk : ReadsBack readKey encodeKey d.1)
    (hv : ReadsBack readValue encodeValue d.2) :
    ',' ∉ (entryText encodeKey encodeValue d).toList := by
  simp [entryText, hk.comma_not_mem, hv.comma_not_mem]

theorem not_allBlank_entryText (encodeKey : α → String) (encodeValue : β → String) (d : α × β) :
    Text.allBlank (entryText encodeKey encodeValue d) ≠ true := by
  intro hblank
  have hcolon : Text.isBlank ':' = true := Text.allBlank_iff.mp hblank ':' (by simp [entryText])
  cases hcolon

/-- Written entries with commas between them are read again in their order. -/
theorem readEntries_join {es : List (α × β)}
    (h : ∀ d ∈ es, ReadsBack readKey encodeKey d.1 ∧ ReadsBack readValue encodeValue d.2) :
    readPieces (readEntry readKey readValue)
      (itemsOf (Text.join "," (es.map (entryText encodeKey encodeValue)))) = .ok es := by
  by_cases hes : es = []
  · subst hes
    rfl
  · have hne : es.map (entryText encodeKey encodeValue) ≠ [] := by simpa using hes
    have hcomma : ∀ p ∈ es.map (entryText encodeKey encodeValue), ',' ∉ p.toList := by
      intro p hp
      obtain ⟨d, hd, rfl⟩ := List.mem_map.mp hp
      exact comma_not_mem_entryText (h d hd).1 (h d hd).2
    have hink :
        Text.allBlank (Text.join "," (es.map (entryText encodeKey encodeValue))) = false := by
      rw [Bool.eq_false_iff]
      intro hblank
      -- A blank text would be the one entry, and an entry has a colon.
      have hmem :=
        List.mem_singleton_self (Text.join "," (es.map (entryText encodeKey encodeValue)))
      rw [← eq_join_of_blank hne hcomma hblank] at hmem
      obtain ⟨d, -, hd⟩ := List.mem_map.mp hmem
      rw [← hd] at hblank
      exact not_allBlank_entryText encodeKey encodeValue d hblank
    rw [itemsOf_of_ink hink, Text.pieces_join rfl hne hcomma, readEntries_eq_ok_iff,
      List.forall₂_map_left_iff, List.forall₂_same]
    exact fun d hd => isEntry_entryText (h d hd).1 (h d hd).2

/-! ## Readers of maps -/

/-- Reads the entries of a text and makes a map of them. -/
def readMap (readKey : String → Except CoercionError α)
    (readValue : String → Except CoercionError β)
    (collect : List (α × β) → List (α × β)) (raw : String) : Except CoercionError (List (α × β)) :=
  (readPieces (readEntry readKey readValue) (itemsOf raw)).map collect

section
variable {collect : List (α × β) → List (α × β)} {raw : String}

theorem readMap_of_blank (hblank : Text.allBlank raw = true) :
    readMap readKey readValue collect raw = .ok (collect []) := by
  rw [readMap, itemsOf_of_blank hblank]
  rfl

theorem readMap_of_entries (hink : Text.allBlank raw = false) {es : List (α × β)}
    (h : List.Forall₂ (IsEntry readKey readValue) (Text.pieces ',' raw) es) :
    readMap readKey readValue collect raw = .ok (collect es) := by
  rw [readMap, itemsOf_of_ink hink, readEntries_eq_ok_iff.mpr h]
  rfl

theorem exists_readMap_iff (hink : Text.allBlank raw = false) :
    (∃ m, readMap readKey readValue collect raw = .ok m) ↔
      ∀ item ∈ Text.pieces ',' raw, ∃ d, IsEntry readKey readValue item d := by
  rw [readMap, itemsOf_of_ink hink, ← exists_readEntries_iff]
  cases readPieces (readEntry readKey readValue) (Text.pieces ',' raw) <;> simp [Except.map]

theorem readMap_eq_error_iff (hink : Text.allBlank raw = false) {e : CoercionError} :
    readMap readKey readValue collect raw = .error e ↔
      FirstRefused readKey readValue (Text.pieces ',' raw) e := by
  rw [readMap, itemsOf_of_ink hink, ← readEntries_eq_error_iff]
  cases readPieces (readEntry readKey readValue) (Text.pieces ',' raw) <;> simp [Except.map]

theorem readMap_join {es : List (α × β)}
    (h : ∀ d ∈ es, ReadsBack readKey encodeKey d.1 ∧ ReadsBack readValue encodeValue d.2) :
    readMap readKey readValue collect
      (Text.join "," (es.map (entryText encodeKey encodeValue))) = .ok (collect es) := by
  rw [readMap, readEntries_join h]
  rfl

end

end

/-- What readers of hashed maps and of tree maps do with a text if `readKey` and `readValue` are the
readers of the two sides of an entry, and keys are compared by `cmp`. -/
structure ReadsMaps {α β : Type} (readKey : String → Except CoercionError α)
    (readValue : String → Except CoercionError β) (cmp : α → α → Ordering)
    (readHash readTree : String → Except CoercionError (List (α × β))) : Prop where
  /-- A blank text has no entries. -/
  blank : ∀ raw, Text.allBlank raw = true → readHash raw = .ok [] ∧ readTree raw = .ok []
  /-- Items that are entries make up a map, in which the last of a key counts. -/
  entries : ∀ raw es, Text.allBlank raw = false →
    List.Forall₂ (IsEntry readKey readValue) (Text.pieces ',' raw) es →
    ∃ m t, readHash raw = .ok m ∧ readTree raw = .ok t ∧ Distinct cmp m ∧ HasLast cmp es m ∧
      Increasing cmp t ∧ HasLast cmp es t
  /-- No item is refused if the text is not. -/
  accepts_iff : ∀ raw, Text.allBlank raw = false →
    ((∃ m, readHash raw = .ok m) ↔
      ∀ item ∈ Text.pieces ',' raw, ∃ d, IsEntry readKey readValue item d) ∧
    ((∃ t, readTree raw = .ok t) ↔
      ∀ item ∈ Text.pieces ',' raw, ∃ d, IsEntry readKey readValue item d)
  /-- The first item that is refused decides the error. -/
  refuses_iff : ∀ raw e, Text.allBlank raw = false →
    (readHash raw = .error e ↔ FirstRefused readKey readValue (Text.pieces ',' raw) e) ∧
    (readTree raw = .error e ↔ FirstRefused readKey readValue (Text.pieces ',' raw) e)
  /-- The entries of a map, written in any order, are read as this map. -/
  written : ∀ (encodeKey : α → String) (encodeValue : β → String) (es : List (α × β)),
    (∀ d ∈ es, ReadsBack readKey encodeKey d.1 ∧ ReadsBack readValue encodeValue d.2) →
    (∀ m, Distinct cmp m → es.Perm m →
      ∃ m', readHash (Text.join "," (es.map (entryText encodeKey encodeValue))) = .ok m' ∧
        m'.Perm m) ∧
    ∀ t, Increasing cmp t → es.Perm t →
      readTree (Text.join "," (es.map (entryText encodeKey encodeValue))) = .ok t

/-- **Maps.** Whatever the readers of keys and values are, and in whatever order the keys, a blank
text is the empty map. Any other is read if all of its items are entries, and then the map has one
entry for each of their keys, with the value of the last item of that key; otherwise it is refused
with the error of the first item that is no entry. The entries of a map that are written in any
order with commas between them are read as this map again. Hashed maps and tree maps do not differ
in this, but for the order in which they have their entries, and every kind is read so as a key and
as a value. -/
theorem reads_maps :
    (∀ (α β : Type) (readKey : String → Except CoercionError α)
      (readValue : String → Except CoercionError β) (cmp : α → α → Ordering), Std.TransCmp cmp →
      ReadsMaps readKey readValue cmp (readMap readKey readValue (hashMapOf cmp))
        (readMap readKey readValue (treeMapOf cmp))) ∧
    ∀ key value : Kind, ReadsMaps key.read value.read key.compare (hashMap key value).read
      (treeMap key value).read := by
  have hmaps : ∀ (α β : Type) (readKey : String → Except CoercionError α)
      (readValue : String → Except CoercionError β) (cmp : α → α → Ordering), Std.TransCmp cmp →
      ReadsMaps readKey readValue cmp (readMap readKey readValue (hashMapOf cmp))
        (readMap readKey readValue (treeMapOf cmp)) := by
    intro α β readKey readValue cmp _
    refine ⟨fun raw hblank => ⟨readMap_of_blank hblank, readMap_of_blank hblank⟩,
      fun raw es hink hes => ?_,
      fun raw hink => ⟨exists_readMap_iff hink, exists_readMap_iff hink⟩,
      fun raw e hink => ⟨readMap_eq_error_iff hink, readMap_eq_error_iff hink⟩,
      fun encodeKey encodeValue es hes => ⟨fun m hm hperm => ?_, fun t ht hperm => ?_⟩⟩
    · obtain ⟨hdistinct, hhash⟩ := hashMapOf_spec cmp es
      obtain ⟨hincreasing, htree⟩ := treeMapOf_spec cmp es
      exact ⟨_, _, readMap_of_entries hink hes, readMap_of_entries hink hes, hdistinct, hhash,
        hincreasing, htree⟩
    · have hread : (hashMapOf cmp es).Perm es := perm_hashMapOf (hm.perm hperm.symm)
      exact ⟨_, readMap_join hes, hread.trans hperm⟩
    · rw [readMap_join hes, treeMapOf_eq ht hperm]
  -- Both kinds of maps are read by `readMap`, with the order of their keys.
  exact ⟨hmaps, fun key value => hmaps _ _ key.read value.read key.compare inferInstance⟩

/-- A number that is spelled in two ways is one key with the last value, an item without a colon is
refused, and two entries are read in the order of their keys. -/
theorem reads_maps_numbers :
    let key : Kind := int .i8
    let one : IntType.i8.Value := ⟨1, by decide, by decide⟩
    let two : IntType.i8.Value := ⟨2, by decide, by decide⟩
    let encode : IntType.i8.Value → String := fun v => if v = one then "1" else "2"
    let es : List (IntType.i8.Value × String) := [(one, "a"), (two, "b"), (one, "c")]
    Text.allBlank "1:a,2:b,0x1:c" = false ∧
    List.Forall₂ (IsEntry key.read text.read) (Text.pieces ',' "1:a,2:b,0x1:c") es ∧
    (∃ t : List (IntType.i8.Value × String), (treeMap key text).read "1:a,2:b,0x1:c" = .ok t ∧
      Increasing key.compare t ∧ valueAt? key.compare one t = some "c") ∧
    (hashMap key text).read "1:a,2" = .error (.mapItem "2") ∧
    (∀ d ∈ [(two, "b"), (one, "a")],
      ReadsBack key.read encode d.1 ∧ ReadsBack text.read id d.2) ∧
    Increasing key.compare [(one, "a"), (two, "b")] ∧
    (treeMap key text).read "2:b,1:a" = .ok [(one, "a"), (two, "b")] := by
  intro key one two encode es
  have hone : readInt .i8 "1" = .ok one := by decide
  have htwo : readInt .i8 "2" = .ok two := by decide
  have hhex : readInt .i8 "0x1" = .ok one := by decide
  have hcomma : ",".toList = [','] := rfl
  have hpieces : Text.pieces ',' "1:a,2:b,0x1:c" = ["1:a", "2:b", "0x1:c"] :=
    (Text.pieces_eq_iff hcomma).mpr ⟨by simp, by decide, rfl⟩
  have hes : List.Forall₂ (IsEntry key.read text.read) (Text.pieces ',' "1:a,2:b,0x1:c") es := by
    rw [hpieces]
    refine .cons ?_ (.cons ?_ (.cons ?_ .nil))
    · exact .sides (a := "1") (b := "a") (by decide) (by decide) hone rfl
    · exact .sides (a := "2") (b := "b") (by decide) (by decide) htwo rfl
    · exact .sides (a := "0x1") (b := "c") (by decide) (by decide) hhex rfl
  have hback : ∀ d ∈ [(two, "b"), (one, "a")],
      ReadsBack key.read encode d.1 ∧ ReadsBack text.read id d.2 := by
    intro d hd
    rcases List.mem_cons.mp hd with rfl | hd
    · exact ⟨⟨htwo, by decide, by decide⟩, ⟨rfl, by decide, by decide⟩⟩
    · obtain rfl := List.mem_singleton.mp hd
      exact ⟨⟨hone, by decide, by decide⟩, ⟨rfl, by decide, by decide⟩⟩
  have hink : Text.allBlank "1:a,2:b,0x1:c" = false := by decide
  have hincreasing : Increasing key.compare [(one, "a"), (two, "b")] :=
    List.pairwise_pair.mpr (by decide)
  have hmaps := reads_maps.2 key text
  obtain ⟨m, t, -, htree, -, -, ht, hlast⟩ := hmaps.entries _ es hink hes
  have hvalue : valueAt? key.compare one t = some "c" :=
    (hlast.eq_some_iff one "c").mpr
      ⟨[(one, "a"), (two, "b")], (one, "c"), [], rfl, by decide, rfl, by simp⟩
  have hrefused : (hashMap key text).read "1:a,2" = .error (.mapItem "2") := by
    have hitems : Text.pieces ',' "1:a,2" = ["1:a", "2"] :=
      (Text.pieces_eq_iff hcomma).mpr ⟨by simp, by decide, rfl⟩
    refine (hmaps.refuses_iff "1:a,2" _ (by decide)).1.mpr ⟨["1:a"], "2", [], hitems, ?_, ?_⟩
    · intro q hq
      obtain rfl := List.mem_singleton.mp hq
      exact ⟨(one, "a"), .sides (a := "1") (b := "a") (by decide) (by decide) hone rfl⟩
    · exact .colons (by decide)
  have hsorted : (treeMap key text).read "2:b,1:a" = .ok [(one, "a"), (two, "b")] :=
    (hmaps.written encode id _ hback).2 _ hincreasing (.swap _ _ _)
  exact ⟨hink, hes, ⟨t, htree, ht, hvalue⟩, hrefused, hback, hincreasing, hsorted⟩

end ConfigBinding.Kind
