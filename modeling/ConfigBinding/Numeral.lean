/-!
# Integer literals

An integer literal is a run of digits in base 10, 16 (`0x`), 8 (`0o`, or a bare leading `0`) or 2
(`0b`), in which `_` may separate digits. Literals are read from the left: a digit outside the base
makes the literal malformed, and a value that has passed the reader's limit before that makes it too
large.
-/

set_option autoImplicit false

namespace ConfigBinding.Numeral

/-- Why a literal is refused. -/
inductive Fault where
  | malformed
  | tooLarge
  deriving DecidableEq, Repr

/-- The value of an ASCII digit or letter as a digit of `base`. -/
def digitOf? (base : Nat) (c : Char) : Option Nat :=
  let digit :=
    if c.isDigit then some (c.toNat - '0'.toNat)
    else if c.isLower then some (c.toNat - 'a'.toNat + 10)
    else if c.isUpper then some (c.toNat - 'A'.toNat + 10)
    else none
  digit.filter (· < base)

/-- The largest magnitude a reader keeps track of: that of 128 bits. -/
def maxMagnitude : Nat :=
  340282366920938463463374607431768211455

/-- The largest magnitude of a signed literal: that of 127 bits. -/
def maxSignedMagnitude : Nat :=
  170141183460469231731687303715884105727

/-- A literal without its sign: the base, whether a base prefix stands before the body, and the
body of digits and separators. -/
structure Spelling where
  base : Nat
  prefixed : Bool
  body : List Char

/-- Splits the base prefix off a literal without sign. -/
def Spelling.ofChars : List Char → Spelling
  | '0' :: c :: rest =>
    if c = 'x' ∨ c = 'X' then ⟨16, true, rest⟩
    else if c = 'o' ∨ c = 'O' then ⟨8, true, rest⟩
    else if c = 'b' ∨ c = 'B' then ⟨2, true, rest⟩
    else ⟨8, true, c :: rest⟩
  | cs => ⟨10, false, cs⟩

/-- Whether every `_` follows a digit (`afterDigit` says so of the first character; a base prefix
counts as a digit) and is followed by a character that is not `_`. -/
def separatorsFit (afterDigit : Bool) : List Char → Bool
  | [] => true
  | [c] => c != '_'
  | c :: d :: rest => if c = '_' then afterDigit && separatorsFit false (d :: rest)
    else separatorsFit true (d :: rest)

/-- Adds the digits of a body to the value read so far. -/
def readDigits (base : Nat) (total : Nat) : List Char → Except Fault Nat
  | [] => .ok total
  | c :: rest =>
    if c = '_' then readDigits base total rest
    else
      match digitOf? base c with
      | none => .error .malformed
      | some d =>
        if base * total + d ≤ maxMagnitude then readDigits base (base * total + d) rest
        else .error .tooLarge

/-- Reads a literal without sign. -/
def readMagnitude (cs : List Char) : Except Fault Nat :=
  let spelling := Spelling.ofChars cs
  if spelling.body.isEmpty || !separatorsFit spelling.prefixed spelling.body then
    .error .malformed
  else
    readDigits spelling.base 0 spelling.body

/-- Reads a literal that may not have a sign. -/
def readUnsigned (cs : List Char) : Except Fault Nat :=
  match cs with
  | '+' :: _ | '-' :: _ => .error .malformed
  | _ => readMagnitude cs

/-- Reads a magnitude that a sign can be put to. -/
def readSignable (cs : List Char) : Except Fault Nat :=
  match readMagnitude cs with
  | .ok n => if n ≤ maxSignedMagnitude then .ok n else .error .tooLarge
  | .error fault => .error fault

/-- Reads a literal that may have one sign. -/
def readSigned : List Char → Except Fault Int
  | '-' :: cs => (readSignable cs).map fun n => -Int.ofNat n
  | '+' :: cs => (readSignable cs).map Int.ofNat
  | cs => (readSignable cs).map Int.ofNat

end ConfigBinding.Numeral
