import ConfigBinding.Declaration.Item
import ConfigBinding.Text.Truth
import Mathlib.Data.List.Forall2

/-!
# Spelling of items

The tokens that are an item (`Spelled`): a tag is its name, an equals sign and a literal that shows
a value; a flag is its name, with an equals sign and a truth value behind it or alone. Nothing else
is read as an item, and the item that is read is the one that is spelled (`read_eq_ok_iff`); whether
it is the last of its attribute decides only which fault is told of.
-/

set_option autoImplicit false

namespace ConfigBinding.Declaration

/-! ## Names -/

/-- The word that names a tag. -/
def TagName.text : TagName → String
  | key => "env"
  | default => "default"
  | onPlatform => "on_gce"

/-- The word that names a flag. -/
def FlagName.text : FlagName → String
  | required => "required"
  | secret => "secret"
  | ignored => "ignored"
  | nested => "nested"
  | embedded => "flatten"
  | setter => "setter"
  | fromText => "from_str"
  | fromBytes => "from_bytes"

namespace Item

theorem tagName?_eq_some_iff {w : String} {name : TagName} :
    tagName? w = some name ↔ w = name.text := by
  constructor
  · intro h
    unfold tagName? at h
    split at h <;> cases h <;> rfl
  · rintro rfl
    cases name <;> rfl

theorem flagName?_eq_some_iff {w : String} {name : FlagName} :
    flagName? w = some name ↔ w = name.text := by
  constructor
  · intro h
    unfold flagName? at h
    split at h <;> cases h <;> rfl
  · rintro rfl
    cases name <;> rfl

/-- No word names both a tag and a flag. -/
theorem tagName?_flag (name : FlagName) : tagName? name.text = none := by
  cases name <;> rfl

/-! ## Spelling -/

/-- The tokens of a value: a text, a number with its sign, or a truth value. -/
inductive Value : List Token → String → Prop
  | text (value : String) : Value [.literal (.text value)] value
  | number (digits : String) : Value [.literal (.number digits)] digits
  | negative (isJoined : Bool) (digits : String) :
      Value [.mark '-' isJoined, .literal (.number digits)] ("-" ++ digits)
  | truth (b : Bool) : Value [.word (Text.ofTruth b) false] (Text.ofTruth b)

/-- The tokens of an item. -/
inductive Spelled : List Token → Item → Prop
  | tag (name : TagName) (isJoined : Bool) {ts : List Token} {value : String} : Value ts value →
      Spelled (.word name.text false :: .mark '=' isJoined :: ts) (.tag name value)
  | bare (name : FlagName) : Spelled [.word name.text false] (.flag name true)
  | flag (name : FlagName) (isJoined : Bool) (value : Bool) :
      Spelled [.word name.text false, .mark '=' isJoined, .word (Text.ofTruth value) false]
        (.flag name value)

/-! ## Reading -/

theorem map_eq_ok_iff {ε α β : Type} {x : Except ε α} {g : α → β} {b : β} :
    x.map g = .ok b ↔ ∃ a, x = .ok a ∧ g a = b := by
  cases x <;> simp [Except.map]

/-- Whether tokens carry on the path of the word in front of them. -/
def CarriesOn (ts : List Token) : Prop :=
  ∃ isJoined rest, ts = .mark ':' true :: .mark ':' isJoined :: rest

section
variable {last : Bool} {ts rest : List Token} {w : String}

theorem pathRest_eq_ok_true_iff :
    pathRest last ts = .ok (true, rest) ↔ rest = ts ∧ ¬ CarriesOn ts := by
  unfold pathRest CarriesOn
  split
  case h_1 => simp [map_eq_ok_iff]
  case h_2 => simp
  case h_3 => simp
  case h_4 hword hend hjoin =>
    constructor
    · intro h
      cases h
      refine ⟨rfl, ?_⟩
      rintro ⟨isJoined, more, rfl⟩
      exact hjoin isJoined more rfl
    · rintro ⟨rfl, -⟩
      rfl

/-- The name of an item is one plain word. -/
theorem path_eq_ok_some_iff :
    path last ts = .ok (some w, rest) ↔ ts = .word w false :: rest ∧ ¬ CarriesOn rest := by
  unfold path
  split
  case h_1 => simp [map_eq_ok_iff]
  case h_2 => simp
  case h_3 name isRaw more =>
    rw [List.cons.injEq, Token.word.injEq, map_eq_ok_iff]
    constructor
    · rintro ⟨⟨ends, left⟩, hrest, heq⟩
      simp only [Prod.mk.injEq, Option.ite_none_right_eq_some, Bool.and_eq_true, Bool.not_eq_true',
        Option.some.injEq] at heq
      obtain ⟨⟨⟨rfl, rfl⟩, rfl⟩, rfl⟩ := heq
      obtain ⟨rfl, hends⟩ := pathRest_eq_ok_true_iff.mp hrest
      exact ⟨⟨⟨rfl, rfl⟩, rfl⟩, hends⟩
    · rintro ⟨⟨⟨rfl, rfl⟩, rfl⟩, hends⟩
      exact ⟨(true, more), pathRest_eq_ok_true_iff.mpr ⟨rfl, hends⟩, rfl⟩
  case h_4 hword =>
    simp only [reduceCtorEq, false_iff, not_and]
    rintro rfl
    exact absurd rfl (hword w false rest)

theorem tagValue_eq_ok_iff {v : String} :
    tagValue last ts = .ok (v, []) ↔ ∃ isJoined vs, ts = .mark '=' isJoined :: vs ∧ Value vs v := by
  constructor
  · intro h
    unfold tagValue at h
    split at h
    case h_1 isJoined vs =>
      refine ⟨isJoined, vs, rfl, ?_⟩
      split at h <;> cases h
      · exact .text v
      · exact .number v
      · exact .truth true
      · exact .truth false
      · exact .negative _ _
    case h_2 => cases h
  · rintro ⟨isJoined, vs, rfl, hv⟩
    cases hv with
    | text | number | negative => rfl
    | truth b => cases b <;> rfl

theorem flagValue_eq_ok_iff {b : Bool} :
    flagValue last ts = .ok (b, []) ↔
      ts = [] ∧ b = true ∨ ∃ isJoined, ts = [.mark '=' isJoined, .word (Text.ofTruth b) false] := by
  constructor
  · intro h
    unfold flagValue at h
    split at h
    case h_1 isJoined vs =>
      split at h <;> cases h <;> exact .inr ⟨isJoined, rfl⟩
    case h_2 =>
      cases h
      exact .inl ⟨rfl, rfl⟩
  · rintro (⟨rfl, rfl⟩ | ⟨isJoined, rfl⟩)
    · rfl
    · cases b <;> rfl

theorem readNamed_eq_ok_iff {item : Item} :
    readNamed last (some w) ts = .ok (item, []) ↔
      (∃ name v, w = TagName.text name ∧ tagValue last ts = .ok (v, []) ∧ item = .tag name v) ∨
      (∃ name b, w = FlagName.text name ∧ flagValue last ts = .ok (b, []) ∧
        item = .flag name b) := by
  constructor
  · intro h
    unfold readNamed at h
    split at h
    case h_1 name htag =>
      obtain ⟨⟨v, left⟩, hv, heq⟩ := map_eq_ok_iff.mp h
      cases heq
      exact .inl ⟨name, v, tagName?_eq_some_iff.mp htag, hv, rfl⟩
    case h_2 name _ hflag =>
      obtain ⟨⟨b, left⟩, hb, heq⟩ := map_eq_ok_iff.mp h
      cases heq
      exact .inr ⟨name, b, flagName?_eq_some_iff.mp hflag, hb, rfl⟩
    case h_3 => cases h
  · rintro (⟨name, v, rfl, hv, rfl⟩ | ⟨name, b, rfl, hb, rfl⟩)
    · have htag : tagName? name.text = some name := tagName?_eq_some_iff.mpr rfl
      simp [readNamed, htag, hv, Except.map]
    · have hflag : flagName? name.text = some name := flagName?_eq_some_iff.mpr rfl
      simp [readNamed, tagName?_flag, hflag, hb, Except.map]

theorem read_eq_ok_iff_readNamed {item : Item} :
    read last ts = .ok item ↔
      ∃ w rest, ts = .word w false :: rest ∧ ¬ CarriesOn rest ∧
        readNamed last (some w) rest = .ok (item, []) := by
  constructor
  · intro h
    unfold read at h
    split at h
    case h_1 => cases h
    case h_2 name rest hpath =>
      cases name with
      | none => simp [readNamed] at h
      | some w =>
        obtain ⟨rfl, hends⟩ := path_eq_ok_some_iff.mp hpath
        refine ⟨w, rest, rfl, hends, ?_⟩
        split at h
        case h_2 hread =>
          cases h
          exact hread
        all_goals cases h
  · rintro ⟨w, rest, hts, hends, hread⟩
    simp [read, path_eq_ok_some_iff.mpr ⟨hts, hends⟩, hread]

/-- An item is read from the tokens that spell it and from no others. -/
theorem read_eq_ok_iff {item : Item} : read last ts = .ok item ↔ Spelled ts item := by
  rw [read_eq_ok_iff_readNamed]
  constructor
  · rintro ⟨w, rest, rfl, -, hread⟩
    rcases readNamed_eq_ok_iff.mp hread with ⟨name, v, rfl, hv, rfl⟩ | ⟨name, b, rfl, hb, rfl⟩
    · obtain ⟨isJoined, vs, rfl, hvalue⟩ := tagValue_eq_ok_iff.mp hv
      exact .tag name isJoined hvalue
    · rcases flagValue_eq_ok_iff.mp hb with ⟨rfl, rfl⟩ | ⟨isJoined, rfl⟩
      · exact .bare name
      · exact .flag name isJoined b
  · intro h
    -- Behind the name stands an equals sign or nothing, so the path ends there.
    have hends : ∀ isJoined vs, ¬ CarriesOn (.mark '=' isJoined :: vs) := by
      rintro isJoined vs ⟨_, _, h⟩
      simp at h
    cases h with
    | tag name isJoined hv =>
      refine ⟨name.text, _, rfl, hends isJoined _,
        readNamed_eq_ok_iff.mpr (.inl ⟨name, _, rfl, ?_, rfl⟩)⟩
      exact tagValue_eq_ok_iff.mpr ⟨isJoined, _, rfl, hv⟩
    | bare name =>
      refine ⟨name.text, _, rfl, ?_, readNamed_eq_ok_iff.mpr (.inr ⟨name, true, rfl, rfl, rfl⟩)⟩
      rintro ⟨_, _, h⟩
      cases h
    | flag name isJoined b =>
      refine ⟨name.text, _, rfl, hends isJoined _,
        readNamed_eq_ok_iff.mpr (.inr ⟨name, b, rfl, ?_, rfl⟩)⟩
      exact flagValue_eq_ok_iff.mpr (.inr ⟨isJoined, rfl⟩)

end

/-- Tokens spell one item at most. -/
theorem Spelled.unique {ts : List Token} {item other : Item} (h : Spelled ts item)
    (ho : Spelled ts other) : item = other := by
  have hread : read true ts = .ok item := read_eq_ok_iff.mpr h
  exact Except.ok.inj (hread.symm.trans (read_eq_ok_iff.mpr ho))

end Item

end ConfigBinding.Declaration
