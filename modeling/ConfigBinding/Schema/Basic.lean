import ConfigBinding.Leaf.Basic
import ConfigBinding.Schema.Field

/-!
# Schemas

A schema is a structure of labelled leaves: a list of leaves, of named structures, whose key becomes
the scope of their fields, and of embedded structures, whose fields stand in the scope around them.
A structure may be wrapped; an optional one that is absent is created by the first walk over it.

`Schema.walk` is the one traversal: it shows every leaf, with its field, to a visitor, in the order
of declaration, and ends early when the visitor fails.
-/

set_option autoImplicit false

namespace ConfigBinding

universe u v

/-- How a structure is held by the field it is the value of. -/
inductive Wrapping where
  | plain
  | boxed
  /-- An optional structure; until it is `present`, its leaves are those it would be created
  with. -/
  | optional (present : Bool)
  deriving DecidableEq, Repr

/-- The wrapping after the structure was descended into. -/
def Wrapping.entered : Wrapping → Wrapping
  | optional _ => optional true
  | w => w

/-- A structure of labelled leaves. -/
inductive Schema (α : Type u) where
  | nil
  | leaf (label : Label) (value : α) (rest : Schema α)
  | nested (label : Label) (wrapping : Wrapping) (inner rest : Schema α)
  | embedded (wrapping : Wrapping) (inner rest : Schema α)

namespace Schema

/-- The same structure with every leaf replaced by its image. -/
def map {α : Type u} {β : Type v} (f : α → β) : Schema α → Schema β
  | nil => nil
  | leaf label value rest => leaf label (f value) (rest.map f)
  | nested label wrapping inner rest => nested label wrapping (inner.map f) (rest.map f)
  | embedded wrapping inner rest => embedded wrapping (inner.map f) (rest.map f)

/-- The structure of labelled leaves side by side. -/
def ofLeaves {α : Type u} : List (Label × α) → Schema α
  | [] => nil
  | (label, value) :: rest => leaf label value (ofLeaves rest)

/-- The first leaf with a name, outside of the structures in it. -/
def find? {α : Type u} (name : String) : Schema α → Option α
  | nil => none
  | leaf label value rest => if label.name = name then some value else rest.find? name
  | nested _ _ _ rest => rest.find? name
  | embedded _ _ rest => rest.find? name

/-- The leaves, in the order of declaration. -/
def leaves {α : Type u} : Schema α → List α
  | nil => []
  | leaf _ value rest => value :: rest.leaves
  | nested _ _ inner rest => inner.leaves ++ rest.leaves
  | embedded _ inner rest => inner.leaves ++ rest.leaves

/-- The keys of the leaves in a scope, in the order of declaration. -/
def keys {α : Type u} (scope : String) : Schema α → List String
  | nil => []
  | leaf label _ rest => label.key scope :: rest.keys scope
  | nested label _ inner rest => inner.keys (label.key scope) ++ rest.keys scope
  | embedded _ inner rest => inner.keys scope ++ rest.keys scope

/-- The field that a leaf under a label is. -/
def fieldOf (scope : String) (label : Label) (l : Leaf) : Field where
  name := label.name
  key := label.key scope
  typeName := l.typeName
  tags := label.tags

/-- What a visitor makes of a leaf: the leaf afterwards, the visitor's state, and the failure that
ends the walk, if there is one. -/
structure Visit (σ ε : Type) where
  leaf : Leaf
  state : σ
  failure : Option ε

/-- What a walk makes of a structure. -/
structure Walk (σ ε : Type) where
  schema : Schema Leaf
  state : σ
  failure : Option ε

/-- Continues a walk after the part walked, unless that failed. -/
def Walk.andThen {σ ε : Type} (first : Walk σ ε) (rest : Schema Leaf)
    (next : σ → Walk σ ε) (build : Schema Leaf → Schema Leaf → Schema Leaf) : Walk σ ε :=
  match first.failure with
  | some e => ⟨build first.schema rest, first.state, some e⟩
  | none =>
    let second := next first.state
    { second with schema := build first.schema second.schema }

/-- Shows every leaf to the visitor, from the given state on. -/
def walk {σ ε : Type} (visit : Field → Leaf → σ → Visit σ ε) (scope : String) :
    Schema Leaf → σ → Walk σ ε
  | nil, s => ⟨nil, s, none⟩
  | leaf label l rest, s =>
    let visited := visit (fieldOf scope label l) l s
    match visited.failure with
    | some e => ⟨leaf label visited.leaf rest, visited.state, some e⟩
    | none =>
      let walked := rest.walk visit scope visited.state
      { walked with schema := leaf label visited.leaf walked.schema }
  | nested label wrapping inner rest, s =>
    (inner.walk visit (label.key scope) s).andThen rest (rest.walk visit scope)
      (nested label wrapping.entered)
  | embedded wrapping inner rest, s =>
    (inner.walk visit scope s).andThen rest (rest.walk visit scope) (embedded wrapping.entered)

/-! ## Collecting and rendering -/

/-- A visitor that notes something about every leaf and changes none. -/
def noting {β : Type} (note : Field → Leaf → β) (f : Field) (l : Leaf) (seen : List β) :
    Visit (List β) Empty :=
  ⟨l, seen ++ [note f l], none⟩

/-- The schema after a walk that changes no leaf, and the fields in a scope, in the order of the
walk. -/
def collect (scope : String) (s : Schema Leaf) : Schema Leaf × List Field :=
  let walked := s.walk (noting fun f _ => f) scope []
  (walked.schema, walked.state)

/-- The text shown in place of a secret. -/
def redacted : String :=
  "<secret>"

/-- What diagnostics show of a leaf's value, if its hashed maps keep their entries in the given
order. -/
def shownValue (order : EntryOrder) (f : Field) (l : Leaf) : String :=
  if f.isSecret then redacted else l.shown order

/-- The schema after a walk that changes no leaf, and key and shown value of every leaf. The orders
of hashed maps are given by the key of the leaf. -/
def display (orders : String → EntryOrder) (scope : String) (s : Schema Leaf) :
    Schema Leaf × List (String × String) :=
  let walked := s.walk (noting fun f l => (f.key, shownValue (orders f.key) f l)) scope []
  (walked.schema, walked.state)

end Schema

end ConfigBinding
