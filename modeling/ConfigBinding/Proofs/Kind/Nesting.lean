import Mathlib.Data.List.Induction
import Mathlib.Logic.Relation
import ConfigBinding.Proofs.Kind.Maps

/-!
# Nested collections

A value of a nested kind has parts (`HasPart`), and reading a text hands pieces of it to the readers
of the kinds inside (`Feeds`). Every part is read from such a piece (`Datum.exists_feeds`). What a
level is cut at does not occur in its pieces, and no character comes back further in
(`Feeds.not_mem`): below a list or map there are no commas, so what is read there has one piece at
most, and below a map there are no colons either, so that a map read there has no entries, or is
refused (`nested_collections`).
-/

set_option autoImplicit false

namespace ConfigBinding.Kind

open Relation

/-- Whether the values of a kind are lists or maps. -/
def isCollection : Kind → Bool
  | list _ | hashMap _ _ | treeMap _ _ => true
  | _ => false

/-- Whether the values of a kind are maps. -/
def isMap : Kind → Bool
  | hashMap _ _ | treeMap _ _ => true
  | _ => false

theorem isCollection_of_isMap {k : Kind} (h : k.isMap = true) : k.isCollection = true := by
  cases k <;> first | rfl | cases h

/-! ## What is inside a text -/

/-- An item of a text has one colon, between two sides. -/
def HasSides (raw a b : String) : Prop :=
  ':' ∉ a.toList ∧ ':' ∉ b.toList ∧ a ++ ":" ++ b ∈ itemsOf raw

/-- Reading a text as a kind reads another text as a kind inside, unless something before it is
refused. The bytes of a list are not read from texts. -/
inductive Feeds : Kind × String → Kind × String → Prop
  | option {k : Kind} {raw : String} : Feeds (option k, raw) (k, raw)
  | item {k : Kind} {raw p : String} : k ≠ int .u8 → p ∈ itemsOf raw → Feeds (list k, raw) (k, p)
  | hashKey {key value : Kind} {raw a b : String} : HasSides raw a b →
      Feeds (hashMap key value, raw) (key, a)
  | hashValue {key value : Kind} {raw a b : String} : HasSides raw a b →
      Feeds (hashMap key value, raw) (value, b)
  | treeKey {key value : Kind} {raw a b : String} : HasSides raw a b →
      Feeds (treeMap key value, raw) (key, a)
  | treeValue {key value : Kind} {raw a b : String} : HasSides raw a b →
      Feeds (treeMap key value, raw) (value, b)

section
variable {raw p a b : String} {c : Char}

theorem comma_not_mem_of_mem_itemsOf (h : p ∈ itemsOf raw) : ',' ∉ p.toList := by
  cases hblank : Text.allBlank raw with
  | true =>
    rw [itemsOf_of_blank hblank] at h
    cases h
  | false =>
    rw [itemsOf_of_ink hblank] at h
    exact Text.not_mem_of_mem_pieces h

theorem not_mem_of_mem_itemsOf (h : p ∈ itemsOf raw) (hc : c ∉ raw.toList) : c ∉ p.toList := by
  cases hblank : Text.allBlank raw with
  | true =>
    rw [itemsOf_of_blank hblank] at h
    cases h
  | false =>
    rw [itemsOf_of_ink hblank] at h
    exact fun hp => hc (Text.mem_of_mem_pieces h hp)

theorem length_itemsOf_le (hcomma : ',' ∉ raw.toList) : (itemsOf raw).length ≤ 1 := by
  cases hblank : Text.allBlank raw with
  | true =>
    rw [itemsOf_of_blank hblank]
    exact Nat.zero_le 1
  | false =>
    rw [itemsOf_of_ink hblank, Text.pieces_of_not_mem hcomma]
    exact Nat.le_refl 1

theorem HasSides.not_mem (h : HasSides raw a b) (hc : c ∉ raw.toList) :
    c ∉ a.toList ∧ c ∉ b.toList := by
  have hitem := not_mem_of_mem_itemsOf h.2.2 hc
  simp only [String.toList_append, List.mem_append, not_or] at hitem
  exact ⟨hitem.1.1, hitem.2⟩

theorem HasSides.comma_not_mem (h : HasSides raw a b) : ',' ∉ a.toList ∧ ',' ∉ b.toList := by
  have hitem := comma_not_mem_of_mem_itemsOf h.2.2
  simp only [String.toList_append, List.mem_append, not_or] at hitem
  exact ⟨hitem.1.1, hitem.2⟩

end

section
variable {s t : Kind × String} {c : Char}

theorem Feeds.not_mem (h : Feeds s t) (hc : c ∉ s.2.toList) : c ∉ t.2.toList := by
  cases h with
  | option => exact hc
  | item _ hp => exact not_mem_of_mem_itemsOf hp hc
  | hashKey h => exact (h.not_mem hc).1
  | hashValue h => exact (h.not_mem hc).2
  | treeKey h => exact (h.not_mem hc).1
  | treeValue h => exact (h.not_mem hc).2

theorem Feeds.comma_not_mem (h : Feeds s t) (hs : s.1.isCollection = true) : ',' ∉ t.2.toList := by
  cases h with
  | option => cases hs
  | item _ hp => exact comma_not_mem_of_mem_itemsOf hp
  | hashKey h => exact h.comma_not_mem.1
  | hashValue h => exact h.comma_not_mem.2
  | treeKey h => exact h.comma_not_mem.1
  | treeValue h => exact h.comma_not_mem.2

theorem Feeds.colon_not_mem (h : Feeds s t) (hs : s.1.isMap = true) : ':' ∉ t.2.toList := by
  cases h with
  | option => cases hs
  | item => cases hs
  | hashKey h => exact h.1
  | hashValue h => exact h.2.1
  | treeKey h => exact h.1
  | treeValue h => exact h.2.1

theorem not_mem_of_feeds (h : ReflTransGen Feeds s t) (hc : c ∉ s.2.toList) : c ∉ t.2.toList := by
  induction h with
  | refl => exact hc
  | tail _ hstep ih => exact hstep.not_mem ih

theorem comma_not_mem_of_feeds (h : TransGen Feeds s t) (hs : s.1.isCollection = true) :
    ',' ∉ t.2.toList := by
  obtain ⟨u, hfirst, hrest⟩ := TransGen.head'_iff.mp h
  exact not_mem_of_feeds hrest (hfirst.comma_not_mem hs)

theorem colon_not_mem_of_feeds (h : TransGen Feeds s t) (hs : s.1.isMap = true) :
    ':' ∉ t.2.toList := by
  obtain ⟨u, hfirst, hrest⟩ := TransGen.head'_iff.mp h
  exact not_mem_of_feeds hrest (hfirst.colon_not_mem hs)

end

/-! ## What is inside a value -/

/-- A value with its kind. -/
structure Datum where
  kind : Kind
  value : kind.Carrier

namespace Datum

/-- How many items a list has, or entries a map. -/
def size : Datum → Nat
  | ⟨list k, vs⟩ => (show List k.Carrier from vs).length
  | ⟨hashMap key value, m⟩ | ⟨treeMap key value, m⟩ =>
    (show List (key.Carrier × value.Carrier) from m).length
  | _ => 0

/-- A value is directly inside another. -/
inductive HasPart : Datum → Datum → Prop
  | some {k : Kind} {v : k.Carrier} : HasPart ⟨option k, some v⟩ ⟨k, v⟩
  | item {k : Kind} {vs : List k.Carrier} {v : k.Carrier} : v ∈ vs → HasPart ⟨list k, vs⟩ ⟨k, v⟩
  | hashKey {key value : Kind} {m : List (key.Carrier × value.Carrier)}
      {e : key.Carrier × value.Carrier} : e ∈ m → HasPart ⟨hashMap key value, m⟩ ⟨key, e.1⟩
  | hashValue {key value : Kind} {m : List (key.Carrier × value.Carrier)}
      {e : key.Carrier × value.Carrier} : e ∈ m → HasPart ⟨hashMap key value, m⟩ ⟨value, e.2⟩
  | treeKey {key value : Kind} {m : List (key.Carrier × value.Carrier)}
      {e : key.Carrier × value.Carrier} : e ∈ m → HasPart ⟨treeMap key value, m⟩ ⟨key, e.1⟩
  | treeValue {key value : Kind} {m : List (key.Carrier × value.Carrier)}
      {e : key.Carrier × value.Carrier} : e ∈ m → HasPart ⟨treeMap key value, m⟩ ⟨value, e.2⟩

end Datum

/-! ## Maps out of entries -/

/-- A way of making a map of entries makes up no keys, no values and no entries. -/
structure Gathers {α β : Type} (collect : List (α × β) → List (α × β)) : Prop where
  key_mem : ∀ {es e}, e ∈ collect es → ∃ d ∈ es, e.1 = d.1
  value_mem : ∀ {es e}, e ∈ collect es → ∃ d ∈ es, e.2 = d.2
  length_le : ∀ es, (collect es).length ≤ es.length

section
variable {α β : Type} {cmp : α → α → Ordering}

/-- What a step takes over from the entry or from the map is that of some entry in the end. -/
theorem exists_of_mem_foldl {γ : Type} {f : α × β → γ} {put : α × β → List (α × β) → List (α × β)}
    (hput : ∀ e m, ∀ x ∈ put e m, f x = f e ∨ ∃ d ∈ m, f x = f d) {es : List (α × β)} {x : α × β}
    (h : x ∈ es.foldl (fun m e => put e m) []) : ∃ d ∈ es, f x = f d := by
  induction es using List.reverseRecOn generalizing x with
  | nil => cases h
  | append_singleton es e ih =>
    rw [List.foldl_concat] at h
    rcases hput _ _ x h with hx | ⟨y, hy, hx⟩
    · exact ⟨e, List.mem_append_right es (List.mem_singleton_self e), hx⟩
    · obtain ⟨d, hd, hyd⟩ := ih hy
      exact ⟨d, List.mem_append_left [e] hd, hx.trans hyd⟩

theorem length_foldl_le {put : α × β → List (α × β) → List (α × β)}
    (hput : ∀ e m, (put e m).length ≤ m.length + 1) (es : List (α × β)) :
    (es.foldl (fun m e => put e m) []).length ≤ es.length := by
  induction es using List.reverseRecOn with
  | nil => exact Nat.zero_le 0
  | append_singleton es e ih =>
    rw [List.foldl_concat, List.length_append]
    exact (hput _ _).trans (Nat.succ_le_succ ih)

theorem gathers_hashMapOf : Gathers (hashMapOf (β := β) cmp) where
  key_mem := exists_of_mem_foldl fun _ _ _ => key_of_mem_putEntry
  value_mem := exists_of_mem_foldl fun _ _ _ => value_of_mem_putEntry
  length_le := length_foldl_le length_putEntry_le

theorem gathers_treeMapOf : Gathers (treeMapOf (β := β) cmp) where
  key_mem := exists_of_mem_foldl fun _ _ x h =>
    (mem_putSorted h).imp (congrArg Prod.fst) fun hx => ⟨x, hx, rfl⟩
  value_mem := exists_of_mem_foldl fun _ _ x h =>
    (mem_putSorted h).imp (congrArg Prod.snd) fun hx => ⟨x, hx, rfl⟩
  length_le := length_foldl_le length_putSorted_le

end

/-! ## What is read from what -/

section
variable {α : Type} {read : String → Except CoercionError α} {ps : List String} {vs : List α}

theorem exists_read_of_mem (h : readPieces read ps = .ok vs) {v : α} (hv : v ∈ vs) :
    ∃ p ∈ ps, read p = .ok v := by
  have hall := readPieces_eq_ok_iff.mp h
  obtain ⟨i, hi, rfl⟩ := List.getElem_of_mem hv
  have hip : i < ps.length := by rw [hall.length_eq]; exact hi
  exact ⟨ps[i], List.getElem_mem hip, hall.get hip hi⟩

theorem length_of_readPieces (h : readPieces read ps = .ok vs) : vs.length = ps.length :=
  (readPieces_eq_ok_iff.mp h).length_eq.symm

end

section
variable {α β : Type} {readKey : String → Except CoercionError α}
  {readValue : String → Except CoercionError β} {collect : List (α × β) → List (α × β)}
  {raw a b : String} {m : List (α × β)}

theorem readMap_eq_ok (h : readMap readKey readValue collect raw = .ok m) :
    ∃ es, readPieces (readEntry readKey readValue) (itemsOf raw) = .ok es ∧ collect es = m := by
  rw [readMap] at h
  cases hes : readPieces (readEntry readKey readValue) (itemsOf raw) with
  | error e => simp [hes, Except.map] at h
  | ok es =>
    simp only [hes, Except.map, Except.ok.injEq] at h
    exact ⟨es, rfl, h⟩

/-- The keys and the values of a map are read from sides of its items, though not always of the
same. -/
theorem exists_sides_of_mem (hcollect : Gathers collect)
    (h : readMap readKey readValue collect raw = .ok m) {e : α × β} (he : e ∈ m) :
    (∃ a b, HasSides raw a b ∧ readKey a = .ok e.1) ∧
      ∃ a b, HasSides raw a b ∧ readValue b = .ok e.2 := by
  obtain ⟨es, hes, rfl⟩ := readMap_eq_ok h
  have hsides :
      ∀ d ∈ es, ∃ a b, HasSides raw a b ∧ readKey a = .ok d.1 ∧ readValue b = .ok d.2 := by
    intro d hd
    obtain ⟨item, hitem, hread⟩ := exists_read_of_mem hes hd
    obtain ⟨ha, hb, hk, hv⟩ := readEntry_eq_ok_iff.mp hread
    exact ⟨_, _, ⟨ha, hb, hitem⟩, hk, hv⟩
  obtain ⟨d, hd, hkey⟩ := hcollect.key_mem he
  obtain ⟨d', hd', hvalue⟩ := hcollect.value_mem he
  obtain ⟨a, b, hab, hk, -⟩ := hsides d hd
  obtain ⟨a', b', hab', -, hv⟩ := hsides d' hd'
  rw [hkey, hvalue]
  exact ⟨⟨a, b, hab, hk⟩, a', b', hab', hv⟩

/-- No side of an item is refused if the text is not. -/
theorem exists_read_of_sides (h : readMap readKey readValue collect raw = .ok m)
    (hab : HasSides raw a b) : (∃ k, readKey a = .ok k) ∧ ∃ v, readValue b = .ok v := by
  obtain ⟨es, hes, -⟩ := readMap_eq_ok h
  obtain ⟨d, hd⟩ := exists_readPieces_iff.mp ⟨es, hes⟩ _ hab.2.2
  rw [readEntry_sides hab.1 hab.2.1] at hd
  cases hk : readKey a with
  | error e => simp [hk, Except.bind] at hd
  | ok k =>
    cases hv : readValue b with
    | error e => simp [hk, hv, Except.bind, Except.map] at hd
    | ok v => exact ⟨⟨k, rfl⟩, v, rfl⟩

theorem length_readMap_le (hcollect : Gathers collect)
    (h : readMap readKey readValue collect raw = .ok m) : m.length ≤ (itemsOf raw).length := by
  obtain ⟨es, hes, rfl⟩ := readMap_eq_ok h
  rw [← length_of_readPieces hes]
  exact hcollect.length_le es

/-- Without separators a text is one item, and this is no entry. -/
theorem readMap_eq_error (hcomma : ',' ∉ raw.toList) (hcolon : ':' ∉ raw.toList)
    (hink : Text.allBlank raw = false) :
    readMap readKey readValue collect raw = .error (.mapItem raw) := by
  refine (readMap_eq_error_iff hink).mpr ⟨[], raw, [], ?_, nofun, .colons ?_⟩
  · exact Text.pieces_of_not_mem hcomma
  · rw [List.count_eq_zero.mpr hcolon]
    exact Nat.zero_ne_one

end

theorem read_option_eq_ok {k : Kind} {raw : String} {o : (option k).Carrier}
    (h : (option k).read raw = .ok o) : ∃ v, k.read raw = .ok v ∧ o = some v := by
  have h : (k.read raw).map some = .ok o := h
  cases hread : k.read raw with
  | error e => simp [hread, Except.map] at h
  | ok v =>
    rw [hread] at h
    exact ⟨v, rfl, (Except.ok.inj h).symm⟩

theorem read_map_eq_error {k : Kind} (hk : k.isMap = true) {raw : String}
    (hcomma : ',' ∉ raw.toList)
    (hcolon : ':' ∉ raw.toList) (hink : Text.allBlank raw = false) :
    k.read raw = .error (.mapItem raw) := by
  cases k with
  | hashMap key value => exact readMap_eq_error hcomma hcolon hink
  | treeMap key value => exact readMap_eq_error hcomma hcolon hink
  | _ => cases hk

/-! ## Sizes -/

section
variable {k : Kind} {raw : String} {v : k.Carrier}

/-- Without commas a list has one item at most, and a map one entry. -/
theorem size_le_one (hk : k.isCollection = true) (hbytes : k ≠ list (int .u8))
    (hcomma : ',' ∉ raw.toList) (h : k.read raw = .ok v) : Datum.size ⟨k, v⟩ ≤ 1 := by
  have hitems := length_itemsOf_le hcomma
  cases k with
  | list k =>
    rw [read_list fun hk => hbytes (congrArg list hk)] at h
    exact (length_of_readPieces h).trans_le hitems
  | hashMap key value => exact (length_readMap_le gathers_hashMapOf h).trans hitems
  | treeMap key value => exact (length_readMap_le gathers_treeMapOf h).trans hitems
  | _ => cases hk

/-- Without commas and colons a map has no entries. -/
theorem size_eq_zero (hk : k.isMap = true) (hcomma : ',' ∉ raw.toList) (hcolon : ':' ∉ raw.toList)
    (h : k.read raw = .ok v) : Datum.size ⟨k, v⟩ = 0 := by
  cases hblank : Text.allBlank raw with
  | false => cases (read_map_eq_error hk hcomma hcolon hblank).symm.trans h
  | true =>
    have hitems : (itemsOf raw).length = 0 := by rw [itemsOf_of_blank hblank]; rfl
    cases k with
    | hashMap key value =>
      exact Nat.le_zero.mp ((length_readMap_le gathers_hashMapOf h).trans_eq hitems)
    | treeMap key value =>
      exact Nat.le_zero.mp ((length_readMap_le gathers_treeMapOf h).trans_eq hitems)
    | _ => cases hk

end

/-! ## Parts and the texts they are read from -/

/-- A text that is read feeds no reader that refuses. -/
theorem Feeds.exists_read {s t : Kind × String} (h : Feeds s t) (hs : ∃ v, s.1.read s.2 = .ok v) :
    ∃ v, t.1.read t.2 = .ok v := by
  obtain ⟨v, hv⟩ := hs
  cases h with
  | option =>
    obtain ⟨x, hx, -⟩ := read_option_eq_ok hv
    exact ⟨x, hx⟩
  | item hbytes hp =>
    rw [read_list hbytes] at hv
    exact exists_readPieces_iff.mp ⟨v, hv⟩ _ hp
  | hashKey hab => exact (exists_read_of_sides hv hab).1
  | hashValue hab => exact (exists_read_of_sides hv hab).2
  | treeKey hab => exact (exists_read_of_sides hv hab).1
  | treeValue hab => exact (exists_read_of_sides hv hab).2

theorem exists_read_of_feeds {s t : Kind × String} (h : ReflTransGen Feeds s t)
    (hs : ∃ v, s.1.read s.2 = .ok v) : ∃ v, t.1.read t.2 = .ok v := by
  induction h with
  | refl => exact hs
  | tail _ hstep ih => exact hstep.exists_read ih

namespace Datum

/-- A datum is read from a text. -/
def ReadFrom (d : Datum) (raw : String) : Prop :=
  d.kind.read raw = .ok d.value

/-- A byte has no parts. -/
theorem not_hasPart_byte {d e : Datum} (hd : d.kind = int .u8) : ¬ HasPart d e := by
  intro h
  cases h <;> cases hd

/-- A part of what is read is a byte of it, or read from a text that it feeds. -/
theorem HasPart.exists_feeds {d e : Datum} (h : HasPart d e) {raw : String} (hd : d.ReadFrom raw) :
    e.kind = int .u8 ∨ ∃ p, Feeds (d.kind, raw) (e.kind, p) ∧ e.ReadFrom p := by
  cases h with
  | @some k v =>
    obtain ⟨x, hx, hv⟩ := read_option_eq_ok hd
    obtain rfl := Option.some.inj hv
    exact .inr ⟨raw, .option, hx⟩
  | @item k vs v hmem =>
    by_cases hbytes : k = int .u8
    · exact .inl hbytes
    · rw [ReadFrom, read_list hbytes] at hd
      obtain ⟨p, hp, hread⟩ := exists_read_of_mem hd hmem
      exact .inr ⟨p, .item hbytes hp, hread⟩
  | hashKey hmem =>
    obtain ⟨⟨a, b, hab, hread⟩, -⟩ := exists_sides_of_mem gathers_hashMapOf hd hmem
    exact .inr ⟨a, .hashKey hab, hread⟩
  | hashValue hmem =>
    obtain ⟨-, a, b, hab, hread⟩ := exists_sides_of_mem gathers_hashMapOf hd hmem
    exact .inr ⟨b, .hashValue hab, hread⟩
  | treeKey hmem =>
    obtain ⟨⟨a, b, hab, hread⟩, -⟩ := exists_sides_of_mem gathers_treeMapOf hd hmem
    exact .inr ⟨a, .treeKey hab, hread⟩
  | treeValue hmem =>
    obtain ⟨-, a, b, hab, hread⟩ := exists_sides_of_mem gathers_treeMapOf hd hmem
    exact .inr ⟨b, .treeValue hab, hread⟩

/-- Whatever is in what is read is a byte, or read from a text that is handed down to it. -/
theorem exists_feeds_of_parts {d e : Datum} (h : ReflTransGen HasPart d e) {raw : String}
    (hd : d.ReadFrom raw) :
    e.kind = int .u8 ∨ ∃ t, ReflTransGen Feeds (d.kind, raw) (e.kind, t) ∧ e.ReadFrom t := by
  induction h with
  | refl => exact .inr ⟨raw, .refl, hd⟩
  | tail _ hpart ih =>
    rcases ih with hbyte | ⟨t, hfeeds, hread⟩
    · exact absurd hpart (not_hasPart_byte hbyte)
    · exact (hpart.exists_feeds hread).imp_right fun ⟨p, hp, hread⟩ => ⟨p, hfeeds.tail hp, hread⟩

theorem exists_feeds_of_inside {d e : Datum} (h : TransGen HasPart d e) {raw : String}
    (hd : d.ReadFrom raw) :
    e.kind = int .u8 ∨ ∃ t, TransGen Feeds (d.kind, raw) (e.kind, t) ∧ e.ReadFrom t := by
  obtain ⟨c, hparts, hpart⟩ := TransGen.tail'_iff.mp h
  rcases exists_feeds_of_parts hparts hd with hbyte | ⟨t, hfeeds, hread⟩
  · exact absurd hpart (not_hasPart_byte hbyte)
  · exact (hpart.exists_feeds hread).imp_right fun ⟨p, hp, hread⟩ => ⟨p, .tail' hfeeds hp, hread⟩

end Datum

open Datum in
/-- **Collections inside collections.** In what is read from a text, whatever the kind, a list or
map inside a list or map has one item or entry at most, lists of bytes apart, and a map inside a map
has none, however deep it lies. A text that a map hands down to a map inside it is thus refused as
it stands unless it is blank, and the whole text with it. -/
theorem nested_collections :
    (∀ (k : Kind) (raw : String) (v : k.Carrier), k.read raw = .ok v →
      ∀ outer inner : Datum, ReflTransGen HasPart ⟨k, v⟩ outer → TransGen HasPart outer inner →
        (outer.kind.isCollection = true → inner.kind.isCollection = true →
          inner.kind ≠ list (int .u8) → inner.size ≤ 1) ∧
        (outer.kind.isMap = true → inner.kind.isMap = true → inner.size = 0)) ∧
    ∀ (k : Kind) (raw : String) (outer inner : Kind × String), ReflTransGen Feeds (k, raw) outer →
      TransGen Feeds outer inner → outer.1.isMap = true → inner.1.isMap = true →
      Text.allBlank inner.2 = false →
        inner.1.read inner.2 = .error (.mapItem inner.2) ∧ ∃ e, k.read raw = .error e := by
  refine ⟨fun k raw v hread outer inner houter hinner => ?_,
    fun k raw outer inner houter hinner hmap hmap' hink => ?_⟩
  · -- A byte has no parts and is no collection, so both are read from texts that were handed down.
    have hinside : inner.kind.isCollection = true → ∃ s t, outer.ReadFrom s ∧
        TransGen Feeds (outer.kind, s) (inner.kind, t) ∧ inner.ReadFrom t := by
      intro hcollection
      obtain ⟨c, hpart, -⟩ := TransGen.head'_iff.mp hinner
      rcases exists_feeds_of_parts houter hread with hbyte | ⟨s, -, hs⟩
      · exact absurd hpart (not_hasPart_byte hbyte)
      · rcases exists_feeds_of_inside hinner hs with hbyte | ⟨t, hfeeds, ht⟩
        · rw [hbyte] at hcollection
          cases hcollection
        · exact ⟨s, t, hs, hfeeds, ht⟩
    refine ⟨fun hcollection hcollection' hbytes => ?_, fun hmap hmap' => ?_⟩
    · obtain ⟨s, t, -, hfeeds, ht⟩ := hinside hcollection'
      exact size_le_one hcollection' hbytes (comma_not_mem_of_feeds hfeeds hcollection) ht
    · obtain ⟨s, t, -, hfeeds, ht⟩ := hinside (isCollection_of_isMap hmap')
      exact size_eq_zero hmap' (comma_not_mem_of_feeds hfeeds (isCollection_of_isMap hmap))
        (colon_not_mem_of_feeds hfeeds hmap) ht
  · have hrefused : inner.1.read inner.2 = .error (.mapItem inner.2) :=
      read_map_eq_error hmap' (comma_not_mem_of_feeds hinner (isCollection_of_isMap hmap))
        (colon_not_mem_of_feeds hinner hmap) hink
    refine ⟨hrefused, ?_⟩
    cases hk : k.read raw with
    | error e => exact ⟨e, rfl⟩
    | ok v =>
      obtain ⟨w, hw⟩ := exists_read_of_feeds (houter.trans hinner.to_reflTransGen) ⟨v, hk⟩
      cases hw.symm.trans hrefused

/-- A list of maps of lists, a map with a blank map in it, and one with a map that is not blank. -/
theorem nested_collections_read :
    let cell : Kind := hashMap text (list text)
    let row : List (String × List String) := [("a", ["x"])]
    let rows : List (List (String × List String)) := [row, [("b", [])]]
    let leaf : Kind := treeMap text text
    let empty : List (String × String) := []
    let tree : Kind := hashMap text (option leaf)
    let branch : List (String × Option (List (String × String))) := [("a", some empty)]
    (list cell).read "a:x,b:" = .ok rows ∧
      TransGen Datum.HasPart ⟨list cell, rows⟩ ⟨cell, row⟩ ∧ Datum.size ⟨cell, row⟩ ≤ 1 ∧
    tree.read "a: " = .ok branch ∧
      TransGen Datum.HasPart ⟨tree, branch⟩ ⟨leaf, empty⟩ ∧ Datum.size ⟨leaf, empty⟩ = 0 ∧
    TransGen Feeds (tree, "a:x") (leaf, "x") ∧ leaf.read "x" = .error (.mapItem "x") ∧
      ∃ e, tree.read "a:x" = .error e := by
  intro cell row rows leaf empty tree branch
  have hcell : ∀ (a b : String) (vs : List String), ':' ∉ a.toList → ':' ∉ b.toList →
      ',' ∉ (a ++ ":" ++ b).toList → Text.allBlank (a ++ ":" ++ b) = false →
      (list text).read b = .ok vs → cell.read (a ++ ":" ++ b) = .ok [(a, vs)] := by
    intro a b vs ha hb hcomma hink hvs
    have hpieces : List.Forall₂ (IsEntry text.read (list text).read)
        (Text.pieces ',' (a ++ ":" ++ b)) [(a, vs)] := by
      rw [Text.pieces_of_not_mem hcomma]
      exact .cons (.sides ha hb rfl hvs) .nil
    exact readMap_of_entries hink hpieces
  have hrows : (list cell).read "a:x,b:" = .ok rows := by
    have hk : cell ≠ int .u8 := nofun
    have hitems : itemsOf "a:x,b:" = ["a:x", "b:"] := by
      have hcomma : ",".toList = [','] := rfl
      rw [itemsOf_of_ink (by decide)]
      exact (Text.pieces_eq_iff hcomma).mpr ⟨by simp, by decide, rfl⟩
    refine (read_list hk _).trans (readPieces_eq_ok_iff.mpr ?_)
    rw [hitems]
    refine .cons ?_ (.cons ?_ .nil)
    · exact hcell "a" "x" ["x"] (by decide) (by decide) (by decide) (by decide) rfl
    · exact hcell "b" "" [] (by decide) (by decide) (by decide) (by decide) rfl
  have hrow : TransGen Datum.HasPart ⟨list cell, rows⟩ ⟨cell, row⟩ :=
    .single (.item List.mem_cons_self)
  have hbranch : tree.read "a: " = .ok branch := by
    have hpieces : List.Forall₂ (IsEntry text.read (option leaf).read) (Text.pieces ',' "a: ")
        branch := by
      rw [Text.pieces_of_not_mem (by decide)]
      exact .cons (.sides (a := "a") (b := " ") (by decide) (by decide) rfl rfl) .nil
    exact readMap_of_entries (by decide) hpieces
  have hempty : TransGen Datum.HasPart ⟨tree, branch⟩ ⟨leaf, empty⟩ :=
    .tail (.single (.hashValue List.mem_cons_self)) .some
  have hsides : HasSides "a:x" "a" "x" := by
    refine ⟨by decide, by decide, ?_⟩
    rw [itemsOf_of_ink (by decide), Text.pieces_of_not_mem (by decide)]
    exact List.mem_singleton_self _
  have hleaf : TransGen Feeds (tree, "a:x") (leaf, "x") :=
    .tail (.single (.hashValue hsides)) .option
  obtain ⟨hvalues, htexts⟩ := nested_collections
  have hrefused := htexts tree "a:x" _ _ .refl hleaf rfl rfl (by decide)
  exact ⟨hrows, hrow, (hvalues _ _ _ hrows _ _ .refl hrow).1 rfl rfl nofun, hbranch, hempty,
    (hvalues _ _ _ hbranch _ _ .refl hempty).2 rfl rfl, hleaf, hrefused.1, hrefused.2⟩

end ConfigBinding.Kind
