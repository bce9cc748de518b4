import ConfigBinding.Yaml.Token

/-!
# Node trees

The tree of nodes that the tokens of one document make. Every node that carries an anchor has a
number, and an alias refers to a number; what it stands for is the last node of that number in the
document.

The number of an anchor is the number of distinct anchor names before it, so a name that is used
again shares its number with the next new name.
-/

set_option autoImplicit false

namespace ConfigBinding.Yaml

/-- A node. -/
inductive Node where
  | scalar (isPlain : Bool) (tag : Option Tag) (text : List Char)
  | sequence (tag : Option Tag) (items : List Node)
  | mapping (tag : Option Tag) (entries : List (Node × Node))
  | reference (number : Nat)
  | anchored (number : Nat) (node : Node)

namespace Node

/-- The node that stands for an omitted one. -/
def empty : Node :=
  scalar true none []

mutual

/-- The number of scalars and aliases, and of starts and ends of collections. -/
def weight : Node → Nat
  | scalar .. => 1
  | reference _ => 1
  | anchored _ node => node.weight
  | sequence _ items => 2 + weightItems items
  | mapping _ entries => 2 + weightEntries entries

/-- The weight of the items of a sequence. -/
def weightItems : List Node → Nat
  | [] => 0
  | item :: items => item.weight + weightItems items

/-- The weight of the entries of a mapping. -/
def weightEntries : List (Node × Node) → Nat
  | [] => 0
  | (key, value) :: entries => key.weight + value.weight + weightEntries entries

end

mutual

/-- The numbered nodes with their numbers, in the order in which they start. -/
def anchors : Node → List (Nat × Node)
  | scalar .. => []
  | reference _ => []
  | anchored number node => (number, node) :: node.anchors
  | sequence _ items => anchorsItems items
  | mapping _ entries => anchorsEntries entries

/-- The numbered nodes in the items of a sequence. -/
def anchorsItems : List Node → List (Nat × Node)
  | [] => []
  | item :: items => item.anchors ++ anchorsItems items

/-- The numbered nodes in the entries of a mapping. -/
def anchorsEntries : List (Node × Node) → List (Nat × Node)
  | [] => []
  | (key, value) :: entries => key.anchors ++ value.anchors ++ anchorsEntries entries

end

end Node

end ConfigBinding.Yaml
