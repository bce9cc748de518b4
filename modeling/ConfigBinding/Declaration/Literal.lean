import ConfigBinding.Decimal.Digits
import ConfigBinding.Numeral
import ConfigBinding.Text.Blank
import ConfigBinding.Text.Word

/-!
# Literals in attributes

The values that an attribute can give: texts between double quotes, with escapes or verbatim, and
numbers in several bases, whole or not. Characters and strings of bytes are recognised, but have no
value. Separators in numbers and suffixes behind literals say nothing, but a number may not run into
a word that cannot be its suffix.

Readers take the characters from where a literal may start, and give what follows it too.
-/

set_option autoImplicit false

namespace ConfigBinding.Declaration

/-- A literal, as far as its value counts. -/
inductive Literal where
  | text (value : String)
  /-- A number, in decimal digits without separators. -/
  | number (digits : String)
  /-- A character, or a string of bytes. -/
  | valueless
  deriving DecidableEq, Repr

namespace Literal

/-! ## Words -/

/-- Whether a character separates words: blanks, and the marks of writing direction. -/
def isSpace (c : Char) : Bool :=
  Text.isBlank c || c == '\u200e' || c == '\u200f'

/-- Whether a word can start with the character. -/
def startsWord (c : Char) : Bool :=
  c == '_' || Text.isWordStart c

/-- Whether a word can go on with the character. -/
def continuesWord (c : Char) : Bool :=
  Text.isWordMiddle c

/-- What follows the suffix at the front, if there is one. -/
def dropSuffix : List Char → List Char
  | [] => []
  | c :: cs => if startsWord c then cs.dropWhile continuesWord else c :: cs

/-! ## Numbers -/

/-- Whether a character belongs to a run of decimal digits. -/
def inRun (c : Char) : Bool :=
  c.isDigit || c == '_'

/-- A run of digits without its separators. -/
def unseparated (cs : List Char) : List Char :=
  cs.filter (· != '_')

/-- Reads an exponent from its letter on. Its plus sign is not kept. -/
def exponent? : List Char → Option (List Char × List Char)
  | [] => none
  | c :: cs =>
    if c = 'e' ∨ c = 'E' then
      let (sign, body) := match cs.dropWhile (· == '_') with
        | '-' :: rest => (['-'], rest)
        | '+' :: rest => ([], rest)
        | rest => ([], rest)
      let digits := unseparated (body.takeWhile inRun)
      if digits.isEmpty then none else some ('e' :: sign ++ digits, body.dropWhile inRun)
    else none

/-- Reads the fraction behind a point. A point before a word or another point is none of the
number's. -/
def fraction? : List Char → Option (List Char × List Char)
  | '.' :: cs =>
    if cs.head?.any fun c => c == '.' || startsWord c then none
    else some ('.' :: unseparated (cs.takeWhile inRun), cs.dropWhile inRun)
  | _ => none

/-- Reads a number in decimal digits that has a fraction, an exponent or both. -/
def fractional? (cs : List Char) : Option (List Char × List Char) :=
  let digits := unseparated (cs.takeWhile inRun)
  let rest := cs.dropWhile inRun
  match fraction? rest with
  | some (fraction, rest) =>
    match exponent? rest with
    | some (exponent, rest) => some (digits ++ fraction ++ exponent, rest)
    | none => some (digits ++ fraction, rest)
  | none => (exponent? rest).map fun (exponent, rest) => (digits ++ exponent, rest)

/-- Reads a whole number in decimal digits. It loses its leading zeros. -/
def whole (cs : List Char) : List Char × List Char :=
  (Decimal.digits (Decimal.value (unseparated (cs.takeWhile inRun))), cs.dropWhile inRun)

/-- Whether a character belongs to a run of digits of a base up to 10, or of base 16. -/
def inRunOf (base : Nat) (c : Char) : Bool :=
  inRun c || (base == 16 && (Numeral.digitOf? 16 c).isSome)

/-- Reads the digits behind the mark of a base. -/
def based? (base : Nat) (cs : List Char) : Option (List Char × List Char) :=
  let run := unseparated (cs.takeWhile (inRunOf base))
  match run.mapM (Numeral.digitOf? base) with
  | none | some [] => none
  | some values =>
    let n := values.foldl (fun n d => base * n + d) 0
    some (Decimal.digits n, cs.dropWhile (inRunOf base))

/-- Whether a number that was read ends where it does: no word goes on behind its suffix. -/
def isSeparate (n : List Char × List Char) : Bool :=
  !(dropSuffix n.2).head?.any continuesWord

/-- Reads a number from its first digit on. Where its fraction and exponent are not separate from
what follows, it is the whole number before them. -/
def number? : List Char → Option (List Char × List Char)
  | '0' :: 'x' :: cs => (based? 16 cs).filter isSeparate
  | '0' :: 'o' :: cs => (based? 8 cs).filter isSeparate
  | '0' :: 'b' :: cs => (based? 2 cs).filter isSeparate
  | cs => ((fractional? cs).filter isSeparate).or ((some (whole cs)).filter isSeparate)

/-! ## Texts -/

/-- The character that a one-letter escape stands for. -/
def simpleEscape? : Char → Option Char
  | 'n' => some '\n'
  | 'r' => some '\r'
  | 't' => some '\t'
  | '\\' => some '\\'
  | '0' => some '\x00'
  | '\'' => some '\''
  | '"' => some '"'
  | _ => none

/-- The character of a code in hexadecimal digits, at most `width` of them. -/
def ofCode? (width : Nat) (ds : List Char) : Option Char :=
  match ds.mapM (Numeral.digitOf? 16) with
  | none | some [] => none
  | some values =>
    let n := values.foldl (fun n d => 16 * n + d) 0
    if values.length ≤ width ∧ n.isValidChar then some (Char.ofNat n) else none

/-- The ASCII character of a code of two hexadecimal digits. -/
def ofShortCode? (a b : Char) : Option Char :=
  (ofCode? 2 [a, b]).filter (·.toNat < 128)

/-- The character of a code between braces. Separators may follow its first digit. -/
def ofLongCode? (ds : List Char) : Option Char :=
  if ds.head? = some '_' then none else ofCode? 6 (unseparated ds)

/-- Whether a character is skipped after an escaped line break. -/
def isSkipped (c : Char) : Bool :=
  c == ' ' || c == '\t' || c == '\n' || c == '\r'

/-- Puts a character before a text that was read. -/
def prepend (c : Char) (read : List Char × List Char) : List Char × List Char :=
  (c :: read.1, read.2)

/-- What follows a code between braces, the closing brace included. -/
def afterCode (cs : List Char) : List Char :=
  (cs.dropWhile (· != '\x7d')).drop 1

theorem length_afterCode_le (cs : List Char) : (afterCode cs).length ≤ cs.length := by
  have := Decimal.length_dropWhile_le (· != '\x7d') cs
  simp only [afterCode, List.length_drop]
  omega

/-- Reads a text with escapes, from behind its opening quote on. -/
def escaped? : List Char → Option (List Char × List Char)
  | [] => none
  | '"' :: cs => some ([], cs)
  | '\\' :: 'x' :: a :: b :: cs =>
    (ofShortCode? a b).bind fun c => (escaped? cs).map (prepend c)
  | '\\' :: 'u' :: '\x7b' :: cs =>
    (ofLongCode? (cs.takeWhile (· != '\x7d'))).bind fun c =>
      (escaped? (afterCode cs)).map (prepend c)
  | '\\' :: '\n' :: cs => escaped? (cs.dropWhile isSkipped)
  | '\\' :: '\r' :: '\n' :: cs => escaped? (cs.dropWhile isSkipped)
  | '\\' :: c :: cs => (simpleEscape? c).bind fun c => (escaped? cs).map (prepend c)
  | '\r' :: '\n' :: cs => (escaped? cs).map (prepend '\n')
  | c :: cs => if c = '\r' then none else (escaped? cs).map (prepend c)
termination_by cs => cs.length
decreasing_by
  · simp only [List.length_cons]
    omega
  · have := length_afterCode_le cs
    simp only [List.length_cons]
    omega
  · have := Decimal.length_dropWhile_le isSkipped cs
    simp only [List.length_cons]
    omega
  · have := Decimal.length_dropWhile_le isSkipped cs
    simp only [List.length_cons]
    omega
  all_goals
    simp only [List.length_cons]
    omega

/-- Reads a verbatim text, from behind its opening quote on. It ends at a quote with `hashes` hash
marks after it. -/
def verbatim? (hashes : Nat) : List Char → Option (List Char × List Char)
  | [] => none
  | c :: cs =>
    if c = '"' ∧ cs.take hashes = List.replicate hashes '#' then some ([], cs.drop hashes)
    else (verbatim? hashes cs).map (prepend c)

/-- Reads a verbatim text from the hash marks before its opening quote on. -/
def hashed? (cs : List Char) : Option (List Char × List Char) :=
  match cs.dropWhile (· == '#') with
  | '"' :: rest => verbatim? (cs.takeWhile (· == '#')).length rest
  | _ => none

/-- What follows a string of bytes, from behind its opening quote on. -/
def skipBytes? : List Char → Option (List Char)
  | [] => none
  | '"' :: cs => some cs
  | '\\' :: _ :: cs => skipBytes? cs
  | _ :: cs => skipBytes? cs

/-- What follows a character, from behind its opening quote on. -/
def skipCharacter? : List Char → Option (List Char)
  | '\\' :: _ :: cs =>
    match cs.dropWhile (· != '\'') with
    | _ :: rest => some rest
    | [] => none
  | _ :: '\'' :: cs => some cs
  | _ => none

/-! ## Literals -/

/-- A text with what follows it, as a literal. -/
def ofText (t : List Char × List Char) : Literal × List Char :=
  (.text (String.ofList t.1), t.2)

/-- A literal without a value, before what follows it. -/
def ofRest (rest : List Char) : Literal × List Char :=
  (.valueless, rest)

/-- Reads a literal without its suffix. -/
def bare? (cs : List Char) : Option (Literal × List Char) :=
  match cs with
  | '"' :: cs => (escaped? cs).map ofText
  | '\'' :: cs => (skipCharacter? cs).map ofRest
  | 'b' :: '\'' :: cs => (skipCharacter? cs).map ofRest
  | 'b' :: '"' :: cs | 'c' :: '"' :: cs => (skipBytes? cs).map ofRest
  | 'b' :: 'r' :: cs | 'c' :: 'r' :: cs => (hashed? cs).map fun t => ofRest t.2
  | 'r' :: cs => (hashed? cs).map ofText
  | c :: _ =>
    if c.isDigit then (number? cs).map fun n => (.number (String.ofList n.1), n.2) else none
  | [] => none

/-- Reads a literal with its suffix. -/
def read? (cs : List Char) : Option (Literal × List Char) :=
  (bare? cs).map fun (l, rest) => (l, dropSuffix rest)

end Literal

end ConfigBinding.Declaration
