import ConfigBinding.Kind.Basic

/-!
# Spelled kinds

The kind that a type name stands for, with arguments between angle brackets: `Vec<Option<u16>>`.
-/

set_option autoImplicit false

namespace ConfigBinding.Kind

/-- The kinds without arguments. -/
def scalars : List Kind :=
  [text, path, bool, float .single, float .double, duration, code, level] ++
    IntType.all.map int

/-- The scalar of a name. -/
def scalar? (name : List Char) : Option Kind :=
  scalars.find? fun k => k.typeName.toList == name

/-- Takes a separator, and the blanks after it, off the front. -/
def expect? (c : Char) : List Char → Option (List Char)
  | d :: rest => if c = d then some (rest.dropWhile (· == ' ')) else none
  | [] => none

/-- Reads a kind off the front of a text, nested at most `depth` deep. -/
def splitSpelling? : (depth : Nat) → List Char → Option (Kind × List Char)
  | 0, _ => none
  | depth + 1, cs =>
    let name := cs.takeWhile Char.isAlphanum
    let rest := cs.dropWhile Char.isAlphanum
    let one (make : Kind → Kind) : Option (Kind × List Char) := do
      let rest ← expect? '<' rest
      let (k, rest) ← splitSpelling? depth rest
      let rest ← expect? '>' rest
      return (make k, rest)
    let two (make : Kind → Kind → Kind) : Option (Kind × List Char) := do
      let rest ← expect? '<' rest
      let (key, rest) ← splitSpelling? depth rest
      let rest ← expect? ',' rest
      let (value, rest) ← splitSpelling? depth rest
      let rest ← expect? '>' rest
      return (make key value, rest)
    if name = "Option".toList then one option
    else if name = "Vec".toList then one list
    else if name = "HashMap".toList then two hashMap
    else if name = "BTreeMap".toList then two treeMap
    else (scalar? name).map fun k => (k, rest)

/-- The kind that a whole text spells. -/
def ofSpelling? (s : String) : Option Kind :=
  match splitSpelling? (s.length + 1) s.toList with
  | some (k, []) => some k
  | _ => none

end ConfigBinding.Kind
