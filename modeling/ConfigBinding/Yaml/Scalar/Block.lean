import ConfigBinding.Yaml.Scalar.Gap

/-!
# Block scalars

The lines of a block scalar are those indented at least as much as its first line that is not empty,
or as its header says. A literal scalar keeps its line breaks; a folded one joins neighbouring lines
that start with no blank. The header also says which line breaks at the end are kept.
-/

set_option autoImplicit false

namespace ConfigBinding.Yaml.Block

/-- Which line breaks are kept at the end of a scalar. -/
inductive Chomping where
  | strip
  | clip
  | keep
  deriving DecidableEq

/-- The header of a scalar: its chomping, and the indentation it gives, if it gives one. -/
structure Header where
  chomping : Chomping
  indentation : Option Nat

/-- Reads a chomping indicator. -/
def chomping? (c : Cursor) : Option (Chomping × Cursor) :=
  if c.isAt '+' then some (.keep, c.advance 1)
  else if c.isAt '-' then some (.strip, c.advance 1)
  else none

/-- Reads an indentation indicator, a digit; zero is none. `none` outside stands for a fault. -/
def indentation? (c : Cursor) : Option (Option Nat × Cursor) :=
  match c.peek 0 with
  | some d =>
    if d == '0' then none
    else if d.isDigit then some (some (d.toNat - '0'.toNat), c.advance 1)
    else some (none, c)
  | none => some (none, c)

/-- Reads the indicators of a header, in either order. -/
def header? (c : Cursor) : Option (Header × Cursor) :=
  match chomping? c with
  | some (chomping, c) => (indentation? c).map fun (n, c) => (⟨chomping, n⟩, c)
  | none =>
    (indentation? c).map fun (n, c) =>
      match n, chomping? c with
      | some n, some (chomping, c) => (⟨chomping, some n⟩, c)
      | n, _ => (⟨.clip, n⟩, c)

/-- Reads empty lines and the indentation of the next line, at most `fuel` lines: the text of the
breaks, the greatest column reached, and the place after them. While `indent` is zero, any number of
spaces is indentation; a tab is none. -/
def emptyLines? (indent : Nat) :
    (fuel : Nat) → List Char → Nat → Cursor → Option (List Char × Nat × Cursor)
  | 0, breaks, deepest, c => some (breaks, deepest, c)
  | fuel + 1, breaks, deepest, c =>
    let spaces := (c.rest.takeWhile (· == ' ')).length
    let c := c.advance (if indent = 0 then spaces else min spaces (indent - c.column))
    let deepest := max deepest c.column
    if (indent = 0 ∨ c.column < indent) ∧ c.isAt '\t' then none
    else if !c.sees 0 isBreak then some (breaks, deepest, c)
    else
      let (text, c) := c.takeBreak
      emptyLines? indent fuel (breaks ++ text) deepest c

/-- What was read of a scalar: its text, the break after its last line, the breaks of the empty
lines after that, whether the last line started with a blank, and the place. -/
structure Reading where
  text : List Char
  first : List Char
  later : List Char
  blankStart : Bool
  cursor : Cursor

/-- The breaks before a line, as they stand in the scalar. -/
def joint (literal : Bool) (r : Reading) (blankStart : Bool) : List Char :=
  if !literal && r.first == ['\n'] && !r.blankStart && !blankStart then
    if r.later.isEmpty then [' '] else r.later
  else r.first ++ r.later

/-- Reads on line by line, at most `fuel` lines. -/
def readLines? (literal : Bool) (indent : Nat) : (fuel : Nat) → Reading → Option Reading
  | 0, r => some r
  | fuel + 1, r =>
    if r.cursor.column ≠ indent ∨ r.cursor.atEnd then some r
    else
      let blankStart := r.cursor.sees 0 isSpacing
      let (line, c) := r.cursor.takeWhile (!isBreak ·)
      let text := r.text ++ joint literal r blankStart ++ line
      let (first, c) := c.takeBreak
      match emptyLines? indent (c.rest.length + 1) [] 0 c with
      | none => none
      | some (later, _, c) =>
        readLines? literal indent fuel ⟨text, first, later, blankStart, c⟩

/-- Reads a scalar whose indicator stands here, inside a structure indented by `parentIndent` (`-1`
outside of all). -/
def read? (literal : Bool) (parentIndent : Int) (c : Cursor) : Option (List Char × Cursor) := do
  let (header, c) ← header? (c.advance 1)
  let c ← c.skipLineTail?
  let given := header.indentation.elim 0 fun n => n + parentIndent.toNat
  let (later, deepest, c) ← emptyLines? given (c.rest.length + 1) [] 0 c
  let indent := if given = 0 then max deepest (max (parentIndent + 1).toNat 1) else given
  let r ← readLines? literal indent (c.rest.length + 1) ⟨[], [], later, false, c⟩
  let ending := match header.chomping with
    | .strip => []
    | .clip => r.first
    | .keep => r.first ++ r.later
  return (r.text ++ ending, r.cursor)

end ConfigBinding.Yaml.Block
