import ConfigBinding.Yaml.Document
import ConfigBinding.Yaml.Value

/-!
# Decoding nodes

Readers of nodes as texts, lists, structures and values. Aliases are followed; in one decoding of a
document at most a hundred times as often as the document has scalars, aliases and ends of
collections. Collections are nested at most 128 deep. A reader that fails says nothing about why.
-/

set_option autoImplicit false

namespace ConfigBinding.Yaml

/-- A reader: it knows the numbered nodes of the document and how many aliases may still be
followed. -/
abbrev Decoder (α : Type) :=
  List (Nat × Node) → Nat → Option (α × Nat)

namespace Decoder

instance : Monad Decoder where
  pure a := fun _ left => some (a, left)
  bind d f := fun anchors left =>
    match d anchors left with
    | some (a, left) => f a anchors left
    | none => none

/-- The reader that fails. -/
def fail {α : Type} : Decoder α :=
  fun _ _ => none

/-- The reader that gives what there is, and fails if there is nothing. -/
def ofOption {α : Type} (o : Option α) : Decoder α :=
  fun _ left => o.map fun a => (a, left)

/-- Reads a whole document. -/
def run {α : Type} (d : Decoder α) (root : Node) : Option α :=
  (d root.anchors (100 * root.weight)).map (·.1)

/-- The greatest depth of collections. -/
def maxDepth : Nat :=
  128

/-- The last node of a number. -/
def lastOf? (anchors : List (Nat × Node)) (number : Nat) : Option Node :=
  anchors.reverse.lookup number

/-- The node without its anchor, or the node that an alias stands for. -/
def resolve : Node → Decoder Node
  | .anchored _ node => pure node
  | .reference number => fun anchors left =>
    match left, lastOf? anchors number with
    | left + 1, some node => some (node, left)
    | _, _ => none
  | node => pure node

/-! ## Texts, lists and structures -/

/-- Reads any scalar as its text. -/
def text (node : Node) : Decoder String := do
  match ← resolve node with
  | .scalar _ _ cs => pure (String.ofList cs)
  | _ => fail

/-- The tag that demands null. -/
def nullTag : Tag :=
  coreTag "null"

/-- Whether a resolved node stands for an absent optional value; a node that is tagged as null and
spells something else is neither absent nor present. -/
def isAbsent? : Node → Option Bool
  | .scalar true none cs => some (cs.isEmpty || isNull cs)
  | .scalar true (some tag) cs =>
    if tag = nullTag then (if isNull cs then some true else none) else some false
  | _ => some false

/-- Reads an optional value. -/
def optional {α : Type} (read : Node → Decoder α) (node : Node) : Decoder (Option α) := do
  let node ← resolve node
  match ← ofOption (isAbsent? node) with
  | true => pure none
  | false => some <$> read node

/-- Reads every element of a list. -/
def each {α β : Type} (read : α → Decoder β) : List α → Decoder (List β)
  | [] => pure []
  | a :: as => do
    let b ← read a
    let bs ← each read as
    pure (b :: bs)

/-- The items of a sequence; an omitted node has none. -/
def items (node : Node) : Decoder (List Node) := do
  match ← resolve node with
  | .sequence _ items => pure items
  | .scalar true _ [] => pure []
  | _ => fail

/-- The entries of a mapping; an omitted node has none. -/
def entries (node : Node) : Decoder (List (Node × Node)) := do
  match ← resolve node with
  | .mapping _ entries => pure entries
  | .scalar true _ [] => pure []
  | _ => fail

/-- The nodes of the known fields among entries. Keys have to be scalars, and a known one may occur
once. -/
def fieldsAmong (known : List String) : List (Node × Node) → Decoder (List (String × Node))
  | [] => pure []
  | (key, node) :: rest => do
    let name ← text key
    let fields ← fieldsAmong known rest
    if !known.contains name then pure fields
    else if fields.any (·.1 == name) then fail
    else pure ((name, node) :: fields)

/-- The nodes of the known fields of a structure. -/
def fields (known : List String) (node : Node) : Decoder (List (String × Node)) := do
  fieldsAmong known (← entries node)

/-- Reads a field that may be missing. -/
def fieldOr {α : Type} (fields : List (String × Node)) (name : String) (default : α)
    (read : Node → Decoder α) : Decoder α :=
  match fields.lookup name with
  | some node => read node
  | none => pure default

/-- Reads a field that must be there. -/
def field {α : Type} (fields : List (String × Node)) (name : String) (read : Node → Decoder α) :
    Decoder α :=
  match fields.lookup name with
  | some node => read node
  | none => fail

/-! ## Values -/

/-- The tag of a resolved node. -/
def tagOf : Node → Option Tag
  | .scalar _ tag _ | .sequence tag _ | .mapping tag _ => tag
  | _ => none

/-- The name that a resolved node's local tag gives to its value. -/
def localName? (node : Node) : Option String :=
  (tagOf node).bind Tag.localName?

/-- The scalar without a local tag. -/
def withoutLocalTag : Node → Node
  | .scalar isPlain (some tag) cs =>
    .scalar isPlain (if tag.isLocal then none else some tag) cs
  | node => node

/-- Puts an entry into a mapping that does not have its key. -/
def distinct (depth : Nat) : List (Value × Value) → Bool
  | [] => true
  | e :: es => !es.any (fun d => sameKey (depth + 1) e.1 d.1) && distinct depth es

/-- Reads a value, with collections nested at most `depth` deep. -/
def value : (depth : Nat) → Node → Decoder Value
  | depth, node => do
    let node ← resolve node
    let content : Decoder Value :=
      match withoutLocalTag node, depth with
      | .scalar isPlain tag cs, _ => ofOption (scalarValue? isPlain tag cs)
      | .sequence _ items, depth + 1 => .sequence <$> each (value depth) items
      | .mapping _ entries, depth + 1 => do
        let entries ← each (fun e => do return (← value depth e.1, ← value depth e.2)) entries
        if distinct depth entries then pure (.mapping entries) else fail
      | _, _ => fail
    match localName? node with
    | some name => .tagged name <$> content
    | none => content

end Decoder

end ConfigBinding.Yaml
