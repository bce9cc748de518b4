import ConfigBinding.Declaration.Plan
import ConfigBinding.Proofs.Declaration.Attributes
import Mathlib.Data.List.Induction
import Mathlib.Data.List.Nodup

/-!
# What items add up to

The options of a field, told from the items on it without going through them (`Adds`): a tag has the
last value given, a flag that is a tag is there once it is on, a flag that shapes the field has the
last value given, the capability is the strongest asked for, and the tags stand in the order in
which they were first set. One item more changes each of these by one step, and so the whole list by
induction (`adds_ofItems`). A field is accepted exactly if its attributes hold pieces that spell
items which do not clash (`options_eq_ok_iff_pieces`), and refused for one of three reasons
(`options_eq_error_iff`).
-/

set_option autoImplicit false

namespace ConfigBinding

/-! ## Tags with distinct keys -/

namespace Tags

/-- The keys of tags, in order. -/
def keys (t : Tags) : List String :=
  t.pairs.map Prod.fst

theorem any_key_iff {t : Tags} {key : String} : t.pairs.any (·.1 == key) = true ↔ key ∈ t.keys := by
  rw [List.any_eq_true, keys, List.mem_map]
  simp only [beq_iff_eq]

theorem lookup_cons_ite (k v : String) (ps : List (String × String)) (key : String) :
    ((k, v) :: ps).lookup key = if key = k then some v else ps.lookup key := by
  by_cases h : key = k
  · rw [if_pos h, h, List.lookup_cons_self]
  · rw [if_neg h, List.lookup_cons, beq_false_of_ne h]

theorem lookup_eq_none_iff {ps : List (String × String)} {key : String} :
    ps.lookup key = none ↔ key ∉ ps.map Prod.fst := by
  induction ps with
  | nil => simp
  | cons p ps ih =>
    rw [lookup_cons_ite, List.map_cons, List.mem_cons]
    split <;> simp_all

theorem keys_set (t : Tags) (key value : String) :
    (t.set key value).keys = if key ∈ t.keys then t.keys else t.keys ++ [key] := by
  unfold set
  by_cases h : key ∈ t.keys
  · rw [if_pos h, if_pos (any_key_iff.mpr h), keys, keys, List.map_map]
    refine List.map_congr_left fun p _ => ?_
    rw [Function.comp_apply]
    split <;> rfl
  · rw [if_neg h, if_neg (fun hk => h (any_key_iff.mp hk)), keys, List.map_append]
    rfl

theorem lookup_replace_self {ps : List (String × String)} {key : String} (value : String)
    (h : key ∈ ps.map Prod.fst) :
    (ps.map fun p => if p.1 == key then (p.1, value) else p).lookup key = some value := by
  induction ps with
  | nil => cases h
  | cons p ps ih =>
    rw [List.map_cons, lookup_cons_ite]
    by_cases hp : p.1 = key
    · simp [hp]
    · have hkey : key ∈ ps.map Prod.fst := (List.mem_cons.mp h).resolve_left (Ne.symm hp)
      simpa [hp, Ne.symm hp] using ih hkey

theorem lookup_replace_of_ne (ps : List (String × String)) {key other : String} (value : String)
    (h : other ≠ key) :
    (ps.map fun p => if p.1 == key then (p.1, value) else p).lookup other = ps.lookup other := by
  induction ps with
  | nil => rfl
  | cons p ps ih =>
    obtain ⟨k, v⟩ := p
    rw [List.map_cons, lookup_cons_ite, lookup_cons_ite, ih]
    by_cases hk : k = key <;> simp [hk, h]

theorem get?_set (t : Tags) (key value other : String) :
    (t.set key value).get? other = if other = key then some value else t.get? other := by
  unfold set
  by_cases h : key ∈ t.keys
  · rw [if_pos (any_key_iff.mpr h)]
    split
    case isTrue hother => rw [hother, get?, lookup_replace_self value h]
    case isFalse hother => rw [get?, lookup_replace_of_ne _ value hother, get?]
  · rw [if_neg (fun hk => h (any_key_iff.mp hk)), get?, List.lookup_append, lookup_cons_ite]
    split
    case isTrue hother => rw [hother, lookup_eq_none_iff.mpr h, Option.none_or]
    case isFalse => rw [List.lookup_nil, Option.or_none, get?]

/-- Tags are the same if their keys are, in order and once each, and have the same values. -/
theorem ext_of_get? {t u : Tags} (hkeys : t.keys = u.keys) (hnodup : t.keys.Nodup)
    (h : ∀ key ∈ t.keys, t.get? key = u.get? key) : t = u := by
  obtain ⟨ps⟩ := t
  obtain ⟨qs⟩ := u
  simp only [keys, get?, mk.injEq] at hkeys hnodup h ⊢
  induction ps generalizing qs with
  | nil => exact (List.map_eq_nil_iff.mp hkeys.symm).symm
  | cons p ps ih =>
    cases qs with
    | nil => cases hkeys
    | cons q qs =>
      obtain ⟨k, v⟩ := p
      obtain ⟨l, w⟩ := q
      obtain ⟨hkl, hrest⟩ := List.cons.inj hkeys
      obtain ⟨hk, hnodup⟩ := List.nodup_cons.mp hnodup
      obtain ⟨hv, h⟩ := List.forall_mem_cons.mp h
      dsimp only at hkl hk hv h
      subst hkl
      rw [lookup_cons_ite, lookup_cons_ite, if_pos rfl, if_pos rfl, Option.some.injEq] at hv
      rw [hv, ih hnodup qs hrest]
      intro key hkey
      have hne : key ≠ k := by
        rintro rfl
        exact hk hkey
      simpa [lookup_cons_ite, hne] using h key hkey

end Tags

namespace Declaration

/-- The key that a flag switches on, if it is one that is a tag. -/
def FlagName.tagKey? : FlagName → Option String
  | required => some Tags.requiredKey
  | secret => some Tags.secretKey
  | _ => none

namespace Item

/-! ## What an item is about -/

/-- The tag that an item sets, if it sets one. -/
def setting? : Item → Option (String × String)
  | .tag name value => some (name.tagKey, value)
  | .flag name true => name.tagKey?.map (·, Text.ofTruth true)
  | .flag _ false => none

/-- The value that an item gives a tag. -/
def tagValue? (name : TagName) : Item → Option String
  | .tag given value => if given = name then some value else none
  | _ => none

/-- The value that an item gives a flag. -/
def flagValue? (name : FlagName) : Item → Option Bool
  | .flag given value => if given = name then some value else none
  | _ => none

/-- The capability that an item asks for. -/
def capability? : Item → Option Capability
  | .flag .setter true => some .setter
  | .flag .fromText true => some .fromText
  | .flag .fromBytes true => some .fromBytes
  | _ => none

/-- Whether a flag is on after items, of which the last one that gives it counts. -/
def endsOn (name : FlagName) (items : List Item) : Bool :=
  ((items.filterMap (flagValue? name)).getLast?).getD false

/-- Whether items do not go together. -/
def Clash (items : List Item) : Prop :=
  endsOn .nested items = true ∧ endsOn .embedded items = true ∨
    (endsOn .nested items = true ∨ endsOn .embedded items = true) ∧
      items.filterMap capability? ≠ []

end Item

/-- The capabilities, the strongest first. -/
def Capability.inOrder : List Capability :=
  [setter, fromText, fromBytes]

/-- The strongest of the capabilities asked for, if any is. -/
def Capability.strongest? (asked : List Capability) : Option Capability :=
  inOrder.find? (asked.contains ·)

/-- The options are what the items add up to. -/
structure Adds (items : List Item) (o : FieldOptions) : Prop where
  keys : o.tags.keys = ((items.filterMap Item.setting?).map Prod.fst).eraseDups
  distinct : o.tags.keys.Nodup
  value (name : TagName) :
    o.tags.get? name.tagKey = (items.filterMap (Item.tagValue? name)).getLast?
  required : o.tags.get? Tags.requiredKey =
    if .flag .required true ∈ items then some (Text.ofTruth true) else none
  secret : o.tags.get? Tags.secretKey =
    if .flag .secret true ∈ items then some (Text.ofTruth true) else none
  ignored : o.ignored = Item.endsOn .ignored items
  nested : o.nested = Item.endsOn .nested items
  embedded : o.embedded = Item.endsOn .embedded items
  capability : o.capability = Capability.strongest? (items.filterMap Item.capability?)

namespace FieldOptions

/-! ## One item more -/

/-- Whether one of the flags that shape a field is on. -/
def isOn (o : FieldOptions) : FlagName → Bool
  | .ignored => o.ignored
  | .nested => o.nested
  | .embedded => o.embedded
  | _ => false

theorem tagKey_injective {name other : TagName} (h : name.tagKey = other.tagKey) :
    name = other := by
  cases name <;> cases other <;> first | rfl | exact absurd h (by decide)

theorem tagKey?_injective {name other : FlagName} {key : String} (h : name.tagKey? = some key)
    (ho : other.tagKey? = some key) : name = other := by
  cases name <;> cases h <;> cases other <;> first | rfl | exact absurd ho (by decide)

theorem tagKey_ne_of_tagKey? {name : FlagName} {key : String} (h : name.tagKey? = some key)
    (tag : TagName) : tag.tagKey ≠ key := by
  cases name <;> cases h <;> cases tag <;> decide

section
variable (o : FieldOptions) (item : Item)

theorem add_tags : (o.add item).tags =
    match item.setting? with
    | some (key, value) => o.tags.set key value
    | Option.none => o.tags := by
  rcases item with ⟨_, _⟩ | ⟨name, value⟩
  · rfl
  · cases name <;> cases value <;> rfl

theorem add_value (name : TagName) :
    (o.add item).tags.get? name.tagKey =
      ((item.tagValue? name).map some).getD (o.tags.get? name.tagKey) := by
  rw [add_tags]
  rcases item with ⟨given, value⟩ | ⟨flag, _ | _⟩
  · rw [Item.setting?, Tags.get?_set, Item.tagValue?]
    by_cases h : given = name
    · simp [h]
    · have hkey : name.tagKey ≠ given.tagKey := fun heq => h (tagKey_injective heq).symm
      simp [h, hkey]
  · rfl
  · cases hflag : flag.tagKey? with
    | none => simp [Item.setting?, Item.tagValue?, hflag]
    | some key =>
      simp [Item.setting?, Item.tagValue?, hflag, Tags.get?_set, tagKey_ne_of_tagKey? hflag]

theorem add_switched {name : FlagName} {key : String} (h : name.tagKey? = some key) :
    (o.add item).tags.get? key =
      if item = .flag name true then some (Text.ofTruth true) else o.tags.get? key := by
  rw [add_tags]
  rcases item with ⟨tag, value⟩ | ⟨given, _ | _⟩
  · simp [Item.setting?, Tags.get?_set, (tagKey_ne_of_tagKey? h tag).symm]
  · simp [Item.setting?]
  · by_cases hname : given = name
    · simp [Item.setting?, Tags.get?_set, hname, h]
    · cases hgiven : given.tagKey? with
      | none => simp [Item.setting?, hgiven, hname]
      | some other =>
        have hne : key ≠ other := by
          rintro rfl
          exact hname (tagKey?_injective hgiven h)
        simp [Item.setting?, Tags.get?_set, hgiven, hname, hne]

theorem add_isOn {name : FlagName} (h : name = .ignored ∨ name = .nested ∨ name = .embedded) :
    (o.add item).isOn name = (item.flagValue? name).getD (o.isOn name) := by
  rcases item with ⟨tag, value⟩ | ⟨given, value⟩
  · rfl
  · rcases h with rfl | rfl | rfl <;> cases given <;> cases value <;> rfl

theorem add_capability : (o.add item).capability =
    match item.capability? with
    | some c => some (stronger o.capability c)
    | Option.none => o.capability := by
  rcases item with ⟨name, value⟩ | ⟨name, value⟩
  · rfl
  · cases name <;> cases value <;> rfl

theorem keys_add : (o.add item).tags.keys =
    match item.setting? with
    | some (key, _) => if key ∈ o.tags.keys then o.tags.keys else o.tags.keys ++ [key]
    | Option.none => o.tags.keys := by
  rw [add_tags]
  split
  case h_1 key value hset => rw [Tags.keys_set]
  case h_2 => rfl

end

/-! ## All items -/

theorem ofItems_concat (items : List Item) (item : Item) :
    ofItems (items ++ [item]) = (ofItems items).add item := by
  rw [ofItems, List.foldl_append]
  rfl

/-- What each item that gives it replaces is given by the last such item. -/
theorem ofItems_last {β : Type} (view : FieldOptions → β) {given : Item → Option β}
    (h : ∀ o item, view (o.add item) = (given item).getD (view o)) (items : List Item) :
    view (ofItems items) = ((items.filterMap given).getLast?).getD (view none) := by
  induction items using List.reverseRecOn with
  | nil => rfl
  | append_singleton items item ih =>
    rw [ofItems_concat, h, ih, List.filterMap_append, List.getLast?_append]
    cases hg : given item with
    | none => simp [hg]
    | some v => simp [hg]

/-- A flag that is a tag stays once it is on. -/
theorem ofItems_switched {name : FlagName} {key : String} (h : name.tagKey? = some key)
    (items : List Item) :
    (ofItems items).tags.get? key =
      if .flag name true ∈ items then some (Text.ofTruth true) else Option.none := by
  induction items using List.reverseRecOn with
  | nil => rfl
  | append_singleton items item ih =>
    rw [ofItems_concat, add_switched _ _ h, ih]
    by_cases hitem : item = .flag name true
    · simp [hitem]
    · simp [hitem, Ne.symm hitem]

theorem value_ofItems (items : List Item) (name : TagName) :
    (ofItems items).tags.get? name.tagKey =
      (items.filterMap (Item.tagValue? name)).getLast? := by
  have hlast :=
    ofItems_last (fun o => o.tags.get? name.tagKey) (fun o item => add_value o item name)
    items
  rw [← List.map_filterMap, List.getLast?_map] at hlast
  rw [hlast]
  cases (items.filterMap (Item.tagValue? name)).getLast? with
  | none => rfl
  | some value => rfl

theorem keys_ofItems (items : List Item) :
    (ofItems items).tags.keys = ((items.filterMap Item.setting?).map Prod.fst).eraseDups := by
  induction items using List.reverseRecOn with
  | nil => rfl
  | append_singleton items item ih =>
    rw [ofItems_concat, keys_add, List.filterMap_append, List.map_append, List.eraseDups_append,
      ← ih]
    cases hset : item.setting? with
    | none => simp [hset]
    | some p =>
      obtain ⟨key, value⟩ := p
      have hkey :
          key ∈ (items.filterMap Item.setting?).map Prod.fst ↔ key ∈ (ofItems items).tags.keys := by
        rw [ih, List.mem_eraseDups]
      simp only [List.filterMap_cons, hset, List.filterMap_nil, List.map_cons, List.map_nil]
      by_cases h : key ∈ (ofItems items).tags.keys
      · simp [h, List.removeAll, hkey.mpr h]
      · simp [h, List.removeAll, mt hkey.mp h, List.eraseDups_cons]

theorem nodup_keys_ofItems (items : List Item) : (ofItems items).tags.keys.Nodup := by
  induction items using List.reverseRecOn with
  | nil => exact .nil
  | append_singleton items item ih =>
    rw [ofItems_concat, keys_add]
    split
    case h_1 key value hset =>
      split
      case isTrue => exact ih
      case isFalse hkey => simpa using List.Nodup.concat hkey ih
    case h_2 => exact ih

theorem strongest?_concat (asked : List Capability) (c : Capability) :
    Capability.strongest? (asked ++ [c]) = some (stronger (Capability.strongest? asked) c) := by
  by_cases hsetter : Capability.setter ∈ asked <;> by_cases htext : Capability.fromText ∈ asked <;>
    by_cases hbytes : Capability.fromBytes ∈ asked <;> cases c <;>
    simp [Capability.strongest?, Capability.inOrder, stronger, Capability.rank, hsetter, htext,
      hbytes]

theorem capability_ofItems (items : List Item) :
    (ofItems items).capability = Capability.strongest? (items.filterMap Item.capability?) := by
  induction items using List.reverseRecOn with
  | nil => rfl
  | append_singleton items item ih =>
    rw [ofItems_concat, add_capability, List.filterMap_append]
    cases hc : item.capability? with
    | none => simpa [hc] using ih
    | some c => simp [hc, strongest?_concat, ih]

theorem adds_ofItems (items : List Item) : Adds items (ofItems items) where
  keys := keys_ofItems items
  distinct := nodup_keys_ofItems items
  value := value_ofItems items
  required := ofItems_switched rfl items
  secret := ofItems_switched rfl items
  ignored := ofItems_last (·.isOn .ignored) (fun o item => add_isOn o item (.inl rfl)) items
  nested := ofItems_last (·.isOn .nested) (fun o item => add_isOn o item (.inr (.inl rfl))) items
  embedded :=
    ofItems_last (·.isOn .embedded) (fun o item => add_isOn o item (.inr (.inr rfl))) items
  capability := capability_ofItems items

example :
    ofItems [.tag .key "A", .flag .fromBytes true, .flag .secret false, .tag .default "1",
      .flag .setter true, .flag .fromText true, .tag .key "B", .flag .required true,
      .flag .required false] =
    ⟨⟨[("env", "B"), ("default", "1"), ("required", "true")]⟩, false, false, false,
      some .setter⟩ := by
  decide

end FieldOptions

/-! ## Options and conflicts -/

theorem Capability.isSome_strongest?_iff {asked : List Capability} :
    (strongest? asked).isSome = true ↔ asked ≠ [] := by
  rw [strongest?, List.find?_isSome]
  constructor
  · rintro ⟨c, -, hc⟩
    exact List.ne_nil_of_mem (List.contains_iff_mem.mp hc)
  · intro h
    obtain ⟨c, hc⟩ := List.exists_mem_of_ne_nil asked h
    exact ⟨c, by cases c <;> decide, List.contains_iff_mem.mpr hc⟩

theorem Item.key_of_setting? {item : Item} {key value : String}
    (h : item.setting? = some (key, value)) :
    (∃ name : TagName, key = name.tagKey) ∨ key = Tags.requiredKey ∨ key = Tags.secretKey := by
  rcases item with ⟨name, given⟩ | ⟨name, _ | _⟩
  · cases h
    exact .inl ⟨name, rfl⟩
  · cases h
  · cases name <;> cases h
    · exact .inr (.inl rfl)
    · exact .inr (.inr rfl)

namespace Adds

variable {items : List Item} {o u : FieldOptions}

theorem tags_unique (ho : Adds items o) (hu : Adds items u) : o.tags = u.tags := by
  refine Tags.ext_of_get? (ho.keys.trans hu.keys.symm) ho.distinct fun key hkey => ?_
  rw [ho.keys, List.mem_eraseDups, List.mem_map] at hkey
  obtain ⟨⟨key, value⟩, hset, rfl⟩ := hkey
  obtain ⟨item, -, hset⟩ := List.mem_filterMap.mp hset
  rcases Item.key_of_setting? hset with ⟨name, rfl⟩ | rfl | rfl
  · rw [ho.value, hu.value]
  · rw [ho.required, hu.required]
  · rw [ho.secret, hu.secret]

/-- Items add up to one thing. -/
theorem unique (ho : Adds items o) (hu : Adds items u) : o = u := by
  have htags := ho.tags_unique hu
  have hignored := ho.ignored.trans hu.ignored.symm
  have hnested := ho.nested.trans hu.nested.symm
  have hembedded := ho.embedded.trans hu.embedded.symm
  have hcapability := ho.capability.trans hu.capability.symm
  cases o
  cases u
  simp_all only

end Adds

theorem adds_iff {items : List Item} {o : FieldOptions} :
    Adds items o ↔ o = FieldOptions.ofItems items := by
  constructor
  · intro h
    exact h.unique (FieldOptions.adds_ofItems items)
  · rintro rfl
    exact FieldOptions.adds_ofItems items

theorem conflict?_eq_none_iff {items : List Item} :
    (FieldOptions.ofItems items).conflict? = none ↔ ¬ Item.Clash items := by
  have h := FieldOptions.adds_ofItems items
  rw [Item.Clash, ← h.nested, ← h.embedded, ← Capability.isSome_strongest?_iff, ← h.capability]
  unfold FieldOptions.conflict?
  cases (FieldOptions.ofItems items).nested <;> cases (FieldOptions.ofItems items).embedded <;>
    cases (FieldOptions.ofItems items).capability <;> simp

end Declaration

/-! ## Fields -/

namespace DeclaredField

open Declaration

variable {f : DeclaredField} {o : FieldOptions} {pieces : List (List Token)}

theorem options_eq_ok_iff :
    f.options = .ok o ↔
      ∃ items, Item.ofTexts f.attributes = .ok items ∧ ¬ Item.Clash items ∧ Adds items o := by
  unfold options
  cases Item.ofTexts f.attributes with
  | error fault => simp
  | ok items =>
    simp only [Except.ok.injEq, exists_eq_left', adds_iff, ← conflict?_eq_none_iff]
    cases (FieldOptions.ofItems items).conflict? <;> simp [eq_comm]

/-- A field is accepted if the pieces that its attributes hold in order spell items that go
together. -/
theorem options_eq_ok_iff_pieces :
    f.options = .ok o ↔
      ∃ pieces items, Item.HoldInOrder f.attributes pieces ∧
        List.Forall₂ Item.Spelled pieces items ∧
        ¬ Item.Clash items ∧ Adds items o := by
  rw [options_eq_ok_iff]
  constructor
  · rintro ⟨items, hread, hclash, hadds⟩
    obtain ⟨pieces, hhold, hitems⟩ := Item.ofTexts_eq_ok_iff.mp hread
    exact ⟨pieces, items, hhold, hitems, hclash, hadds⟩
  · rintro ⟨pieces, items, hhold, hitems, hclash, hadds⟩
    exact ⟨items, Item.ofTexts_eq_ok_iff.mpr ⟨pieces, hhold, hitems⟩, hclash, hadds⟩

theorem exists_error_iff : (∃ fault, f.options = .error fault) ↔ ¬ ∃ o, f.options = .ok o := by
  cases f.options <;> simp

/-- A field is refused if an attribute holds no pieces, a piece spells no item or the items do not
go together. -/
theorem options_eq_error_iff :
    (∃ fault, f.options = .error fault) ↔
      (∃ s ∈ f.attributes, ∀ pieces, ¬ Item.HoldsText s pieces) ∨
        ∃ pieces, Item.HoldInOrder f.attributes pieces ∧
          ((∃ p ∈ pieces, ∀ item, ¬ Item.Spelled p item) ∨
            ∃ items, List.Forall₂ Item.Spelled pieces items ∧ Item.Clash items) := by
  rw [exists_error_iff]
  constructor
  · intro h
    by_cases hhold : ∀ s ∈ f.attributes, ∃ pieces, Item.HoldsText s pieces
    · obtain ⟨pieces, hpieces⟩ := Item.exists_holdInOrder_iff.mpr hhold
      refine .inr ⟨pieces, hpieces, ?_⟩
      by_cases hspelled : ∀ p ∈ pieces, ∃ item, Item.Spelled p item
      · obtain ⟨items, hitems⟩ := Item.exists_forall₂_iff.mpr hspelled
        refine .inr ⟨items, hitems, Classical.byContradiction fun hclash => h ?_⟩
        exact ⟨_, options_eq_ok_iff_pieces.mpr
          ⟨pieces, items, hpieces, hitems, hclash, FieldOptions.adds_ofItems items⟩⟩
      · push Not at hspelled
        exact .inl hspelled
    · push Not at hhold
      exact .inl hhold
  · rintro h ⟨o, ho⟩
    obtain ⟨pieces, items, hpieces, hitems, hclash, -⟩ := options_eq_ok_iff_pieces.mp ho
    rcases h with ⟨s, hs, hnone⟩ | ⟨pieces', hpieces', ⟨p, hp, hnone⟩ | ⟨items', hitems', hclash'⟩⟩
    · obtain ⟨held, hheld⟩ := Item.exists_holdInOrder_iff.mp ⟨pieces, hpieces⟩ s hs
      exact hnone held hheld
    · obtain rfl := hpieces.unique hpieces'
      obtain ⟨item, hitem⟩ := Item.exists_forall₂_iff.mp ⟨items, hitems⟩ p hp
      exact hnone item hitem
    · obtain rfl := hpieces.unique hpieces'
      have hunique : Relator.RightUnique Item.Spelled := fun _ _ _ => Item.Spelled.unique
      obtain rfl := hunique.forall₂ hitems hitems'
      exact hclash hclash'

/-- Attributes that hold the same pieces in order give the same options. -/
theorem options_eq_ok_congr {g : DeclaredField} (hf : Item.HoldInOrder f.attributes pieces)
    (hg : Item.HoldInOrder g.attributes pieces) : f.options = .ok o ↔ g.options = .ok o := by
  rw [options_eq_ok_iff_pieces, options_eq_ok_iff_pieces]
  constructor
  · rintro ⟨ps, items, hps, h⟩
    obtain rfl := hps.unique hf
    exact ⟨ps, items, hg, h⟩
  · rintro ⟨ps, items, hps, h⟩
    obtain rfl := hps.unique hg
    exact ⟨ps, items, hf, h⟩

/-- Fields are bound if each of them is accepted, ignored ones too. -/
theorem exists_bindAll_iff {fs : List DeclaredField} :
    (∃ bound, Declaration.bindAll fs = .ok bound) ↔ ∀ f ∈ fs, ∃ o, f.options = .ok o := by
  induction fs with
  | nil => simp [Declaration.bindAll]
  | cons f fs ih =>
    rw [List.forall_mem_cons, ← ih, Declaration.bindAll]
    cases f.options with
    | error fault => simp
    | ok o => cases Declaration.bindAll fs <;> simp [Except.map]

theorem exists_plan_iff {d : Declaration} (h : d.form = .named) :
    (∃ plan, d.plan = .ok plan) ↔ ∀ f ∈ d.fields, ∃ o, f.options = .ok o := by
  rw [← exists_bindAll_iff, Declaration.plan, Declaration.boundFields, if_pos h]
  cases Declaration.bindAll d.fields <;> simp [Except.map]

/-- A field is accepted exactly if its attributes hold pieces that spell items which go together.
Its options are what the items add up to, whichever attributes hold them, and a declaration has a
plan only if all of its fields are accepted, the ignored ones too. -/
theorem options_add_up (f : DeclaredField) :
    (∀ o, f.options = .ok o ↔
      ∃ pieces items, Item.HoldInOrder f.attributes pieces ∧
        List.Forall₂ Item.Spelled pieces items ∧
        ¬ Item.Clash items ∧ Adds items o) ∧
    ((∃ fault, f.options = .error fault) ↔
      (∃ s ∈ f.attributes, ∀ pieces, ¬ Item.HoldsText s pieces) ∨
        ∃ pieces, Item.HoldInOrder f.attributes pieces ∧
          ((∃ p ∈ pieces, ∀ item, ¬ Item.Spelled p item) ∨
            ∃ items, List.Forall₂ Item.Spelled pieces items ∧ Item.Clash items)) ∧
    (∀ (g : DeclaredField) (pieces : List (List Token)), Item.HoldInOrder f.attributes pieces →
      Item.HoldInOrder g.attributes pieces → ∀ o, f.options = .ok o ↔ g.options = .ok o) ∧
    ∀ d : Declaration, d.form = .named →
      ((∃ plan, d.plan = .ok plan) ↔ ∀ g ∈ d.fields, ∃ o, g.options = .ok o) :=
  ⟨fun _ => options_eq_ok_iff_pieces, options_eq_error_iff,
    fun _ _ hf hg _ => options_eq_ok_congr hf hg, fun _ => exists_plan_iff⟩

end DeclaredField

end ConfigBinding
