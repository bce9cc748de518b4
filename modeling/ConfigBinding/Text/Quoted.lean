import ConfigBinding.Text.Unprintable

/-!
# Quoted texts

The form in which diagnostics show a text: between double quotes, with every character that has no
visible form of its own, every backslash and every double quote escaped. A single character is
shown between apostrophes, where the apostrophe is escaped and the double quote is not. The quoted
form holds no line break, whatever the text holds.
-/

set_option autoImplicit false

namespace ConfigBinding.Text

/-- The digits of `n` in base 16, lower case. -/
def hexDigits (n : Nat) : List Char :=
  Nat.toDigits 16 n

/-- The escape of a character by its code. -/
def codeEscape (c : Char) : List Char :=
  ['\\', 'u', '\x7b'] ++ hexDigits c.toNat ++ ['\x7d']

/-- A character as it stands between two `delimiter`s. -/
def escapeChar (delimiter c : Char) : List Char :=
  if c = '\x00' then ['\\', '0']
  else if c = '\t' then ['\\', 't']
  else if c = '\r' then ['\\', 'r']
  else if c = '\n' then ['\\', 'n']
  else if c = '\\' then ['\\', '\\']
  else if c = delimiter then ['\\', c]
  else if isExtending c || isUnprintable c then codeEscape c
  else [c]

/-- A list of characters between two delimiters, escaped. -/
def quoteWith (delimiter : Char) (cs : List Char) : String :=
  String.ofList (delimiter :: cs.flatMap (escapeChar delimiter) ++ [delimiter])

/-- A text between double quotes. -/
def quote (s : String) : String :=
  quoteWith '"' s.toList

/-- A character between apostrophes. -/
def quoteChar (c : Char) : String :=
  quoteWith '\'' [c]

end ConfigBinding.Text
