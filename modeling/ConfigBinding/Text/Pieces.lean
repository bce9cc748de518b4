/-!
# Pieces of a text

A text is cut at every occurrence of a separator, and joined again with it. Pieces are kept as they
stand: nothing is trimmed, and an empty text has one empty piece.
-/

set_option autoImplicit false

namespace ConfigBinding.Text

/-- The pieces of `s` between the occurrences of `separator`, in order. -/
def pieces (separator : Char) (s : String) : List String :=
  (s.toList.splitOn separator).map String.ofList

/-- The texts of a list with `separator` between neighbours. -/
def join (separator : String) (parts : List String) : String :=
  separator.intercalate parts

end ConfigBinding.Text
