/-!
# Paths

A file path is kept as it was written. Two paths are the same when their components are: repeated
and closing separators, and single dots after the first place, say nothing.
-/

set_option autoImplicit false

namespace ConfigBinding

/-- A component of a path. -/
inductive PathComponent where
  | root
  | here
  | parent
  | named (name : List Char)
  deriving DecidableEq, Repr

/-- A file path, as written. -/
structure Path where
  text : String
  deriving DecidableEq, Repr

namespace Path

instance : Inhabited Path := ⟨⟨""⟩⟩

/-- The component that a piece between separators stands for after the first place. -/
def component? (piece : List Char) : Option PathComponent :=
  if piece = [] ∨ piece = ['.'] then none
  else if piece = ['.', '.'] then some .parent
  else some (.named piece)

/-- The components of a path, in order. -/
def components (p : Path) : List PathComponent :=
  match p.text.toList.splitOn '/' with
  | [] => []
  | first :: rest =>
    let front :=
      if first = ['.'] then [PathComponent.here]
      else if first = [] ∧ rest ≠ [] then [PathComponent.root]
      else (component? first).toList
    front ++ rest.filterMap component?

/-- The last component, if it is a name. -/
def fileName? (p : Path) : Option String :=
  match p.components.getLast? with
  | some (.named name) => some (String.ofList name)
  | _ => none

/-- The place of a component's kind in the order of paths. -/
def componentRank : PathComponent → Nat
  | .root => 0
  | .here => 1
  | .parent => 2
  | .named _ => 3

/-- The order of components: by kind, names by their characters. -/
def compareComponent (a b : PathComponent) : Ordering :=
  (compare (componentRank a) (componentRank b)).then <|
    match a, b with
    | .named x, .named y => compare (String.ofList x) (String.ofList y)
    | _, _ => .eq

end Path

end ConfigBinding
