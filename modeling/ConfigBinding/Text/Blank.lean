/-!
# Blank characters

The characters with the Unicode property White_Space, and trimming by them. A text is *blank* when
it holds nothing else.
-/

set_option autoImplicit false

namespace ConfigBinding.Text

/-- The characters of property White_Space. -/
def isBlank (c : Char) : Bool :=
  let n := c.toNat
  (0x9 ≤ n && n ≤ 0xD) || n == 0x20 || n == 0x85 || n == 0xA0 || n == 0x1680 ||
    (0x2000 ≤ n && n ≤ 0x200A) || n == 0x2028 || n == 0x2029 || n == 0x202F || n == 0x205F ||
    n == 0x3000

/-- Whether a text holds blank characters only; the empty text does. -/
def allBlank (s : String) : Bool :=
  s.toList.all isBlank

/-- A list of characters without the blank ones at its end. -/
def dropBlankEnd (cs : List Char) : List Char :=
  (cs.reverse.dropWhile isBlank).reverse

/-- A text without the blank characters at its end. -/
def trimEnd (s : String) : String :=
  String.ofList (dropBlankEnd s.toList)

/-- A text without the blank characters at either end. -/
def trim (s : String) : String :=
  String.ofList ((dropBlankEnd s.toList).dropWhile isBlank)

end ConfigBinding.Text
