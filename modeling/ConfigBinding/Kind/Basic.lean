import ConfigBinding.Decimal.Notation
import ConfigBinding.Duration
import ConfigBinding.IntType
import ConfigBinding.LogLevel
import ConfigBinding.Path
import ConfigBinding.StatusCode
import ConfigBinding.Text.Pieces
import ConfigBinding.Text.Quoted
import ConfigBinding.Text.Truth

/-!
# Kinds of values

The types that a configuration value can have by its kind alone: scalars, and options, lists and
maps of kinds. A kind determines its values (`Kind.Carrier`), the value a leaf starts with, an
order, and the text that shows a value.

The values of maps are lists of pairs without equal keys: those of a hashed map in the order in
which their keys came first, those of a tree map by increasing key. A hashed map shows its entries
in an order that nothing about it decides, so the text of a value is given by the order as well
(`EntryOrder`).
-/

set_option autoImplicit false

namespace ConfigBinding

/-- A floating-point type. -/
inductive FloatType where
  | single
  | double
  deriving DecidableEq, Repr

/-- The name of the type. -/
def FloatType.name : FloatType → String
  | single => "f32"
  | double => "f64"

/-- The binary format of the type. -/
def FloatType.format : FloatType → Decimal.BinaryFormat
  | single => .single
  | double => .double

/-- The orders in which the hashed maps within one value keep their entries. Each map has an order
of its own, given by the place of the map within the value. -/
structure EntryOrder where
  /-- The texts of a map's entries, as the map at the place arranges them. -/
  arrange : List Nat → List String → List String
  arrange_perm : ∀ place texts, (arrange place texts).Perm texts

namespace EntryOrder

/-- The orders within a part of the value. -/
def inside (order : EntryOrder) (part : Nat) : EntryOrder where
  arrange place := order.arrange (part :: place)
  arrange_perm place := order.arrange_perm (part :: place)

/-- Entries in the order of their texts. -/
def byText : EntryOrder where
  arrange _ texts := texts.mergeSort fun a b => a ≤ b
  arrange_perm _ texts := List.mergeSort_perm texts _

end EntryOrder

/-- A kind of values. -/
inductive Kind where
  | text
  | path
  | bool
  | int (t : IntType)
  | float (t : FloatType)
  | duration
  | code
  | level
  | option (k : Kind)
  | list (k : Kind)
  | hashMap (key value : Kind)
  | treeMap (key value : Kind)
  deriving DecidableEq, Repr

namespace Kind

/-- The values of a kind. -/
def Carrier : Kind → Type
  | text => String
  | path => Path
  | bool => Bool
  | int t => t.Value
  | float _ => Decimal.BinaryFloat
  | duration => Duration
  | code => StatusCode
  | level => LogLevel
  | option k => Option k.Carrier
  | list k => List k.Carrier
  | hashMap key value => List (key.Carrier × value.Carrier)
  | treeMap key value => List (key.Carrier × value.Carrier)

/-- The value a leaf of the kind starts with. -/
def initial : (k : Kind) → k.Carrier
  | text => ""
  | path => (⟨""⟩ : Path)
  | bool => false
  | int t => (default : t.Value)
  | float _ => Decimal.BinaryFloat.zero
  | duration => (default : Duration)
  | code => StatusCode.ok
  | level => LogLevel.info
  | option _ => none
  | list _ => []
  | hashMap _ _ => []
  | treeMap _ _ => []

/-- The name of the kind. -/
def typeName : Kind → String
  | text => "String"
  | path => "PathBuf"
  | bool => "bool"
  | int t => t.name
  | float t => t.name
  | duration => "Duration"
  | code => "Code"
  | level => "Level"
  | option k => "Option<" ++ k.typeName ++ ">"
  | list k => "Vec<" ++ k.typeName ++ ">"
  | hashMap key value => "HashMap<" ++ key.typeName ++ ", " ++ value.typeName ++ ">"
  | treeMap key value => "BTreeMap<" ++ key.typeName ++ ", " ++ value.typeName ++ ">"

/-! ## Order -/

/-- The order of lists by their first difference; a list is above its beginnings. -/
def compareList {α : Type} (cmp : α → α → Ordering) : List α → List α → Ordering
  | [], [] => .eq
  | [], _ :: _ => .lt
  | _ :: _, [] => .gt
  | a :: as, b :: bs => (cmp a b).then (compareList cmp as bs)

/-- The order of optional values: absence comes first. -/
def compareOption {α : Type} (cmp : α → α → Ordering) : Option α → Option α → Ordering
  | none, none => .eq
  | none, some _ => .lt
  | some _, none => .gt
  | some a, some b => cmp a b

/-- The order of pairs, by the first component where it decides. -/
def comparePair {α β : Type} (cmpFirst : α → α → Ordering) (cmpSecond : β → β → Ordering)
    (a b : α × β) : Ordering :=
  (cmpFirst a.1 b.1).then (cmpSecond a.2 b.2)

/-- An order of floating-point values by sign, exponent and mantissa, which tells all of them
apart. -/
def compareFloat : Decimal.BinaryFloat → Decimal.BinaryFloat → Ordering
  | .nan, .nan => .eq
  | .nan, _ => .gt
  | _, .nan => .lt
  | .infinite s, .infinite t => compare t s
  | .infinite s, .finite .. => if s then .lt else .gt
  | .finite .., .infinite t => if t then .gt else .lt
  | .finite s m e, .finite t n f =>
    (compare t s).then <|
      let magnitude := (compare e f).then (compare m n)
      if s then magnitude.swap else magnitude

/-- The order of the values of a kind. Equality of map keys is equality in this order, so two paths
with the same components are one key. -/
def compare : (k : Kind) → k.Carrier → k.Carrier → Ordering
  | text => fun (a b : String) => Ord.compare a b
  | path => fun (a b : Path) => compareList Path.compareComponent a.components b.components
  | bool => fun (a b : Bool) => Ord.compare a b
  | int t => fun (a b : t.Value) => Ord.compare a.val b.val
  | float _ => compareFloat
  | duration => fun (a b : Duration) => Ord.compare a.nanos b.nanos
  | code => fun (a b : StatusCode) => Ord.compare a.number b.number
  | level => fun (a b : LogLevel) => Ord.compare a.rank b.rank
  | option k => compareOption k.compare
  | list k => compareList k.compare
  | hashMap key value => compareList (comparePair key.compare value.compare)
  | treeMap key value => compareList (comparePair key.compare value.compare)

/-! ## Text of a value -/

/-- Floating-point values in diagnostics: from `0.0001` up to below `10 ^ 16` without exponent, and
of two equally near decimals the greater. -/
def floatStyle : Decimal.FloatStyle where
  minPoint := -3
  maxPoint := 16
  tie := .upward
  infinity := "inf"
  nan := "NaN"

/-- Texts between brackets, separated by commas. -/
def bracketed (left right : Char) (parts : List String) : String :=
  left.toString ++ Text.join ", " parts ++ right.toString

/-- The texts of map entries, given the texts of their parts by the place of the entry. -/
def renderEntries {α β : Type} (renderKey : Nat → α → String) (renderValue : Nat → β → String)
    (entries : List (α × β)) : List String :=
  entries.mapIdx fun i e => renderKey i e.1 ++ ": " ++ renderValue i e.2

/-- The text that shows a value whose hashed maps keep their entries in the given order. -/
def render : (k : Kind) → EntryOrder → k.Carrier → String
  | text => fun _ (v : String) => Text.quote v
  | path => fun _ (v : Path) => Text.quote v.text
  | bool => fun _ (v : Bool) => Text.ofTruth v
  | int t => fun _ (v : t.Value) => Decimal.intText v.val
  | float t => fun _ (v : Decimal.BinaryFloat) => floatStyle.render t.format v
  | duration => fun _ (v : Duration) => v.render
  | code => fun _ (v : StatusCode) => v.title
  | level => fun _ (v : LogLevel) => "Level(" ++ v.title ++ ")"
  | option k => fun order (v : Option k.Carrier) =>
    match v with
    | none => "None"
    | some x => "Some(" ++ k.render order x ++ ")"
  | list k => fun order (v : List k.Carrier) =>
    bracketed '[' ']' (v.mapIdx fun i x => k.render (order.inside i) x)
  | hashMap key value => fun order (v : List (key.Carrier × value.Carrier)) =>
    bracketed '\x7b' '\x7d' <| order.arrange [] <|
      renderEntries (fun i => key.render (order.inside (2 * i)))
        (fun i => value.render (order.inside (2 * i + 1))) v
  | treeMap key value => fun order (v : List (key.Carrier × value.Carrier)) =>
    bracketed '\x7b' '\x7d' <|
      renderEntries (fun i => key.render (order.inside (2 * i)))
        (fun i => value.render (order.inside (2 * i + 1))) v

end Kind

end ConfigBinding
