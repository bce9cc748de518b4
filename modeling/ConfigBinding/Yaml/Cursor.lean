import ConfigBinding.Text.Utf8

/-!
# Places in a YAML text

The characters that a YAML text may hold, its line breaks and blanks, and a cursor, which knows what
is left of the text and where in it that begins.
-/

set_option autoImplicit false

namespace ConfigBinding.Yaml

/-- Whether a character may stand in a text: no control other than tab and the line breaks, no
noncharacter at the end of the first plane. -/
def isAllowed (c : Char) : Bool :=
  let n := c.toNat
  n == 0x9 || n == 0xA || n == 0xD || (0x20 ≤ n && n ≤ 0x7E) || n == 0x85 ||
    (0xA0 ≤ n && n ≤ 0xD7FF) || (0xE000 ≤ n && n ≤ 0xFFFD) || 0x10000 ≤ n

/-- Whether a character breaks a line. -/
def isBreak (c : Char) : Bool :=
  c == '\r' || c == '\n' || c == '\x85' || c == '\u2028' || c == '\u2029'

/-- The mark of byte order, which counts for nothing at the start of a line. -/
def byteOrderMark : Char :=
  '\ufeff'

/-- Whether a character is a space or a tab. -/
def isSpacing (c : Char) : Bool :=
  c == ' ' || c == '\t'

/-- Whether a character ends a word. -/
def isGap (c : Char) : Bool :=
  isSpacing c || isBreak c

/-- Whether a character can stand in the names of anchors, directives and tag handles. -/
def isNameChar (c : Char) : Bool :=
  c.isAlphanum || c == '_' || c == '-'

/-- A place in a text: what follows it, how many bytes precede it, and its line and column, which is
a number of characters. -/
structure Cursor where
  rest : List Char
  index : Nat
  line : Nat
  column : Nat

namespace Cursor

/-- The start of a text. -/
def start (cs : List Char) : Cursor :=
  ⟨cs, 0, 0, 0⟩

/-- The `n`-th character from here on. -/
def peek (c : Cursor) (n : Nat) : Option Char :=
  c.rest[n]?

/-- Whether this is the end of the text. -/
def atEnd (c : Cursor) : Bool :=
  c.rest.isEmpty

/-- Whether the `n`-th character from here on is there and satisfies `p`. -/
def sees (c : Cursor) (n : Nat) (p : Char → Bool) : Bool :=
  (c.peek n).any p

/-- Whether the next character is `x`. -/
def isAt (c : Cursor) (x : Char) : Bool :=
  c.sees 0 (· == x)

/-- Whether a word ends before the `n`-th character: there is a gap or nothing. -/
def wordEnds (c : Cursor) (n : Nat) : Bool :=
  (c.peek n).all isGap

/-- Whether the line ends here. -/
def lineEnds (c : Cursor) : Bool :=
  (c.peek 0).all isBreak

/-- The place `n` characters on in the same line. -/
def advance (c : Cursor) (n : Nat) : Cursor :=
  ⟨c.rest.drop n, c.index + Text.byteLength (c.rest.take n), c.line, c.column + n⟩

/-- The characters from here on that satisfy `p`, and the place after them. -/
def takeWhile (c : Cursor) (p : Char → Bool) : List Char × Cursor :=
  let cs := c.rest.takeWhile p
  (cs, c.advance cs.length)

/-- The place after the characters that satisfy `p`. -/
def skipWhile (c : Cursor) (p : Char → Bool) : Cursor :=
  (c.takeWhile p).2

/-- The place at the start of the next line, a break of `n` characters away. -/
def nextLine (c : Cursor) (n : Nat) : Cursor :=
  ⟨c.rest.drop n, c.index + Text.byteLength (c.rest.take n), c.line + 1, 0⟩

/-- The place after the mark of byte order that starts the line here, if one does. -/
def skipMark (c : Cursor) : Cursor :=
  if c.column == 0 && c.isAt byteOrderMark then c.advance 1 else c

/-- The line break here, if there is one, and the place after it. The two separators of lines and
paragraphs stand for themselves, every other break for a line feed. -/
def takeBreak (c : Cursor) : List Char × Cursor :=
  match c.rest with
  | '\r' :: '\n' :: _ => (['\n'], c.nextLine 2)
  | '\r' :: _ | '\n' :: _ | '\x85' :: _ => (['\n'], c.nextLine 1)
  | '\u2028' :: _ => (['\u2028'], c.nextLine 1)
  | '\u2029' :: _ => (['\u2029'], c.nextLine 1)
  | _ => ([], c)

/-- The place after the comment that starts here, if one does. -/
def skipComment (c : Cursor) : Cursor :=
  if c.isAt '#' then c.skipWhile (!isBreak ·) else c

/-- The place after the spaces, tabs and comment up to the end of the line; there is none when
something else stands there. -/
def skipLineTail? (c : Cursor) : Option Cursor :=
  let c := (c.skipWhile isSpacing).skipComment
  if c.lineEnds then some c.takeBreak.2 else none

/-- Whether a line starts here with the mark of a document's start or end. -/
def atDocumentMark (c : Cursor) : Bool :=
  c.column == 0 && (c.rest.take 3 == ['-', '-', '-'] || c.rest.take 3 == ['.', '.', '.']) &&
    c.wordEnds 3

end Cursor

end ConfigBinding.Yaml
