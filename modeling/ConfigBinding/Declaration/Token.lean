import ConfigBinding.Declaration.Literal

/-!
# Tokens of attributes

The text of an attribute is a sequence of words, marks, literals and brackets. Spaces and comments
between them say nothing; a comment that is documentation is a token of its own.
-/

set_option autoImplicit false

namespace ConfigBinding.Declaration

/-- The kinds of brackets. -/
inductive Bracket where
  | round
  | square
  | curly
  deriving DecidableEq, Repr

/-- A token. -/
inductive Token where
  /-- A word; a raw one is written so that it is no keyword. -/
  | word (name : String) (isRaw : Bool)
  /-- A single mark; a joined one stands right before another. -/
  | mark (c : Char) (isJoined : Bool)
  | literal (l : Literal)
  | opening (b : Bracket)
  | closing (b : Bracket)
  | documentation
  deriving DecidableEq, Repr

namespace Token

/-! ## Comments -/

/-- What follows a comment between slashes and stars, which may hold others. `depth` of them are
open at the start. -/
def skipComment? (depth : Nat) : List Char → Option (List Char)
  | '*' :: '/' :: cs => if depth ≤ 1 then some cs else skipComment? (depth - 1) cs
  | '/' :: '*' :: cs => skipComment? (depth + 1) cs
  | _ :: cs => skipComment? depth cs
  | [] => none

/-- Whether a comment is documentation, given the mark that opens it a second time and what follows
it. -/
def isDocumentation (opener : Char) : List Char → Bool
  | '!' :: _ => true
  | c :: d :: _ => c == opener && d != opener && !(opener == '*' && d == '/')
  | [c] => c == opener
  | [] => false

/-- The comment at the front: whether it is documentation, and what follows it. -/
def comment? : List Char → Option (Bool × List Char)
  | '/' :: '/' :: cs => some (isDocumentation '/' cs, cs.dropWhile (· != '\n'))
  | '/' :: '*' :: cs => (skipComment? 1 cs).map fun rest => (isDocumentation '*' cs, rest)
  | _ => none

/-! ## Single tokens -/

/-- Whether a character is a mark. -/
def isMark (c : Char) : Bool :=
  "~!@#$%^&*-=+|;:,<.>/?'".contains c

/-- Whether a mark stands at the front. The slash of a comment is none. -/
def atMark (cs : List Char) : Bool :=
  cs.head?.any isMark && (comment? cs).isNone

/-- The bracket that a character is. -/
def bracket? : Char → Option Token
  | '(' => some (opening .round)
  | ')' => some (closing .round)
  | '[' => some (opening .square)
  | ']' => some (closing .square)
  | '\x7b' => some (opening .curly)
  | '\x7d' => some (closing .curly)
  | _ => none

/-- A word with what follows it. -/
def wordOf (isRaw : Bool) (cs : List Char) : Token × List Char :=
  let name := cs.takeWhile Literal.continuesWord
  (word (String.ofList name) isRaw, cs.dropWhile Literal.continuesWord)

/-- The word at the front, with what follows it. -/
def word? (cs : List Char) : Option (Token × List Char) :=
  match cs with
  | 'r' :: '#' :: c :: rest =>
    some (if Literal.startsWord c then wordOf true (c :: rest) else wordOf false cs)
  | c :: _ => if Literal.startsWord c then some (wordOf false cs) else none
  | [] => none

/-- The mark at the front, with what follows it. -/
def mark? : List Char → Option (Token × List Char)
  | c :: cs => if isMark c then some (mark c (atMark cs), cs) else none
  | [] => none

/-- The token at the front, with what follows it. -/
def next? (cs : List Char) : Option (Token × List Char) :=
  match (cs.head?).bind bracket?, Literal.read? cs with
  | some b, _ => some (b, cs.drop 1)
  | none, some (l, rest) => some (literal l, rest)
  | none, none => (mark? cs).or (word? cs)

/-! ## Texts -/

/-- The tokens of a text; none if there is something in it that is no token. -/
def scan? : List Char → Option (List Token)
  | [] => some []
  | c :: cs =>
    if Literal.isSpace c then scan? cs
    else
      match comment? (c :: cs) with
      | some (isDoc, rest) =>
        if rest.length ≤ cs.length then
          (scan? rest).map fun ts => if isDoc then documentation :: ts else ts
        else none
      | none =>
        match next? (c :: cs) with
        | some (t, rest) => if rest.length ≤ cs.length then (scan? rest).map (t :: ·) else none
        | none => none
termination_by cs => cs.length

end Token

end ConfigBinding.Declaration
