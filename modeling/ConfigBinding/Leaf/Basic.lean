import ConfigBinding.Kind.Reading
import ConfigBinding.TypeName

/-!
# Leaves

A leaf is a typed value that raw text can be assigned to. What assignment does is up to the leaf's
type, which is open: a type made from a kind reads the text by its kind, a type with a reader of its
own replaces its value by what the reader gives (from the text, or from its bytes), and a type with
a setter updates the value it has. A text that is refused leaves the value alone, except that a
setter may have changed it before it complained.
-/

set_option autoImplicit false

namespace ConfigBinding

/-- A type of leaves with a reader of its own. -/
structure CustomType where
  Carrier : Type
  typeName : String
  initial : Carrier
  /-- The value after a raw text is assigned to the given value, or a complaint. -/
  assign : String → Carrier → Except String Carrier
  render : EntryOrder → Carrier → String
  /-- What a refused raw text leaves of the given value. -/
  afterRefusal : String → Carrier → Carrier := fun _ v => v

namespace CustomType

/-- Leaves that update themselves, also by a part of a text that they then refuse. -/
def ofSetter {α : Type} (qualifiedName : String) (initial : α)
    (set : String → α → Except String α) (render : α → String)
    (afterRefusal : String → α → α := fun _ v => v) : CustomType where
  Carrier := α
  typeName := TypeName.shorten qualifiedName
  initial := initial
  assign := set
  render _ := render
  afterRefusal := afterRefusal

/-- Leaves with a reader of text. -/
def ofText {α : Type} (qualifiedName : String) (initial : α) (read : String → Except String α)
    (render : α → String) : CustomType :=
  ofSetter qualifiedName initial (fun raw _ => read raw) render

/-- Leaves with a reader of bytes. -/
def ofBytes {α : Type} (qualifiedName : String) (initial : α)
    (read : List UInt8 → Except String α) (render : α → String) : CustomType :=
  ofSetter qualifiedName initial (fun raw _ => read (Text.bytes raw)) render

end CustomType

/-- A type of leaves. -/
inductive LeafType where
  | kind (k : Kind)
  | custom (t : CustomType)

namespace LeafType

/-- The values of a leaf of the type. -/
def Carrier : LeafType → Type
  | kind k => k.Carrier
  | custom t => t.Carrier

/-- The name of the type. -/
def typeName : LeafType → String
  | kind k => k.typeName
  | custom t => t.typeName

/-- The value a leaf of the type starts with. -/
def initial : (t : LeafType) → t.Carrier
  | kind k => k.initial
  | custom t => t.initial

/-- The value after a raw text is assigned to the given value. -/
def assign : (t : LeafType) → String → t.Carrier → Except CoercionError t.Carrier
  | kind k, raw, _ => k.read raw
  | custom t, raw, v => (t.assign raw v).mapError .custom

/-- The value that a refused raw text leaves of the given value. -/
def afterRefusal : (t : LeafType) → String → t.Carrier → t.Carrier
  | kind _, _, v => v
  | custom t, raw, v => t.afterRefusal raw v

/-- The text that shows a value whose hashed maps keep their entries in the given order. -/
def render : (t : LeafType) → EntryOrder → t.Carrier → String
  | kind k => k.render
  | custom t => t.render

end LeafType

/-- A leaf with its current value. -/
structure Leaf where
  type : LeafType
  value : type.Carrier

namespace Leaf

/-- A leaf of a type, with the value leaves of the type start with. -/
def new (t : LeafType) : Leaf :=
  ⟨t, t.initial⟩

/-- The name of the leaf's type. -/
def typeName (l : Leaf) : String :=
  l.type.typeName

/-- The leaf after a raw text is assigned to it. -/
def assign (raw : String) (l : Leaf) : Except CoercionError Leaf :=
  match l.type.assign raw l.value with
  | .ok v => .ok ⟨l.type, v⟩
  | .error e => .error e

/-- The text that shows the current value, if hashed maps keep their entries in the given order. -/
def shown (order : EntryOrder) (l : Leaf) : String :=
  l.type.render order l.value

/-- The text that shows the current value, with the entries of hashed maps in the order of their
texts. -/
def render (l : Leaf) : String :=
  l.shown .byText

/-- The leaf as a refused raw text leaves it. -/
def afterRefusal (raw : String) (l : Leaf) : Leaf :=
  ⟨l.type, l.type.afterRefusal raw l.value⟩

/-- The leaf after a raw text is assigned to it, or refused. -/
def assignOrKeep (raw : String) (l : Leaf) : Leaf :=
  match l.assign raw with
  | .ok l => l
  | .error _ => l.afterRefusal raw

/-- The value of a leaf that holds a text. -/
def text? : Leaf → Option String
  | ⟨.kind .text, v⟩ => some v
  | _ => none

/-- The value of a leaf that holds an integer. -/
def int? : Leaf → Option Int
  | ⟨.kind (.int _), v⟩ => some (IntType.Value.val v)
  | _ => none

theorem type_eq_of_assign {raw : String} {l m : Leaf} (h : l.assign raw = .ok m) :
    m.type = l.type := by
  unfold assign at h
  split at h
  · injection h with h
    rw [← h]
  · cases h

end Leaf

end ConfigBinding
