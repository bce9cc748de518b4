import ConfigBinding.Yaml.Scalar.Gap

/-!
# Plain scalars

A scalar without quotes ends at a comment, at a colon before a gap, at a line that is indented less
than it must be, at a document mark, and between flow brackets at the characters that punctuate
these.
-/

set_option autoImplicit false

namespace ConfigBinding.Yaml

/-- Whether a character punctuates flow collections. -/
def isFlowPunctuation (c : Char) : Bool :=
  c == ',' || c == '[' || c == ']' || c == '{' || c == '}'

namespace Plain

/-- The word at the front of a text; there is none when, between flow brackets, a colon stands
directly before their punctuation. -/
def word? (inFlow : Bool) : List Char → Option (List Char)
  | [] => some []
  | c :: rest =>
    if isGap c then some []
    else if inFlow && c == ':' && rest.head?.any fun d => isFlowPunctuation d || d == '?' then none
    else if c == ':' && rest.head?.all isGap then some []
    else if inFlow && isFlowPunctuation c then some []
    else (word? inFlow rest).map (c :: ·)

/-- What was read of a plain scalar: its text, the gap after its last word, and the place after that
gap. -/
structure Reading where
  text : List Char
  gap : Gap
  cursor : Cursor

/-- Reads on word by word, at most `fuel` words. -/
def readFrom? (inFlow : Bool) (indent : Nat) : (fuel : Nat) → Reading → Option Reading
  | 0, r => some r
  | fuel + 1, r =>
    if r.cursor.atDocumentMark || r.cursor.isAt '#' then some r
    else
      match word? inFlow r.cursor.rest with
      | none => none
      | some w =>
        let c := r.cursor.advance w.length
        let text := if w.isEmpty then r.text else r.text ++ r.gap.text ++ w
        let gap := if w.isEmpty then r.gap else Gap.empty
        if !c.sees 0 isGap then some ⟨text, gap, c⟩
        else
          match Gap.read? indent gap c with
          | none => none
          | some (gap, c) =>
            if !inFlow && c.column < indent then some ⟨text, gap, c⟩
            else readFrom? inFlow indent fuel ⟨text, gap, c⟩

/-- Reads a plain scalar. Says also whether its last word is followed by a line break. -/
def read? (inFlow : Bool) (indent : Nat) (c : Cursor) : Option (List Char × Bool × Cursor) :=
  (readFrom? inFlow indent (c.rest.length + 1) ⟨[], Gap.empty, c⟩).map fun r =>
    (r.text, r.gap.broken, r.cursor)

end Plain

end ConfigBinding.Yaml
