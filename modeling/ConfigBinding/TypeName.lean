import ConfigBinding.Text.Alphanumeric

/-!
# Short type names

A type is named in diagnostics without the modules that its parts live in: of every path
`a::b::Name` the last segment is kept, and brackets, commas, spaces and the like are left alone.
-/

set_option autoImplicit false

namespace ConfigBinding.TypeName

/-- The state of the pass over a name: the text so far without its last segment, and that segment,
both last character first. -/
structure Shortening where
  settled : List Char
  segment : List Char

/-- The text so far. -/
def Shortening.text (s : Shortening) : List Char :=
  (s.segment ++ s.settled).reverse

/-- Runs over a name: a `::` drops the segment before it, and a character outside `isWord` ends the
segment. -/
def shortenFrom (isWord : Char → Bool) (s : Shortening) : List Char → List Char
  | [] => s.text
  | [c] =>
    (if isWord c then { s with segment := c :: s.segment }
      else ⟨c :: s.segment ++ s.settled, []⟩ : Shortening).text
  | c :: d :: rest =>
    if c = ':' ∧ d = ':' then shortenFrom isWord { s with segment := [] } rest
    else if isWord c then shortenFrom isWord { s with segment := c :: s.segment } (d :: rest)
    else shortenFrom isWord ⟨c :: s.segment ++ s.settled, []⟩ (d :: rest)

/-- Whether a character can stand in a segment. -/
def isWordChar (c : Char) : Bool :=
  Text.isAlphanumeric c || c == '_'

/-- A qualified type name with every path cut to its last segment. -/
def shorten (qualified : String) : String :=
  String.ofList (shortenFrom isWordChar ⟨[], []⟩ qualified.toList)

end ConfigBinding.TypeName
