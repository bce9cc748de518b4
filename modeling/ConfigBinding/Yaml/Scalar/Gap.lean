import ConfigBinding.Yaml.Cursor

/-!
# Gaps inside a scalar

The blanks and line breaks between two words of a scalar that may run over several lines. Blanks
within a line are kept; a single line break is folded into a space, and further breaks are kept.
-/

set_option autoImplicit false

namespace ConfigBinding.Yaml

/-- A gap: its blanks before the first line break, whether there was a break, the first break's text
and the texts of the later ones. -/
structure Gap where
  spacing : List Char
  broken : Bool
  first : List Char
  later : List Char

namespace Gap

/-- The gap before anything is read. -/
def empty : Gap :=
  ⟨[], false, [], []⟩

/-- What stands in the scalar for a break and the breaks after it. -/
def fold (first later : List Char) : List Char :=
  if first = ['\n'] then (if later.isEmpty then [' '] else later) else first ++ later

/-- What stands in the scalar for the gap. -/
def text (g : Gap) : List Char :=
  if g.broken then fold g.first g.later else g.spacing

/-- Reads on over a gap, at most `fuel` characters. A tab before column `indent` of a later line is
no indentation. -/
def readFrom? (indent : Nat) : (fuel : Nat) → Gap → Cursor → Option (Gap × Cursor)
  | 0, g, c => some (g, c)
  | fuel + 1, g, c =>
    match c.peek 0 with
    | none => some (g, c)
    | some x =>
      if isSpacing x then
        if g.broken && x == '\t' && c.column < indent then none
        else if g.broken then readFrom? indent fuel g (c.advance 1)
        else readFrom? indent fuel { g with spacing := g.spacing ++ [x] } (c.advance 1)
      else if isBreak x then
        let (text, c) := c.takeBreak
        if g.broken then readFrom? indent fuel { g with later := g.later ++ text } c
        else readFrom? indent fuel ⟨[], true, text, []⟩ c
      else some (g, c)

/-- Reads a gap. -/
def read? (indent : Nat) (g : Gap) (c : Cursor) : Option (Gap × Cursor) :=
  readFrom? indent c.rest.length g c

end Gap

end ConfigBinding.Yaml
