import ConfigBinding.Decimal.Digits
import ConfigBinding.Numeral
import ConfigBinding.Text.Utf8
import ConfigBinding.Yaml.Cursor
import ConfigBinding.Yaml.Token

/-!
# Anchors, tags and directives

The tokens that say something about a node or a document: names of anchors and aliases, tags in
their three spellings, and the two directives.
-/

set_option autoImplicit false

namespace ConfigBinding.Yaml.Property

/-- Whether the name of an anchor or alias may end here. -/
def anchorEnds (c : Cursor) : Bool :=
  c.wordEnds 0 || c.sees 0 fun x => ['?', ':', ',', ']', '}', '%', '@', '`'].contains x

/-- Reads the name of an anchor or alias whose indicator stands here. -/
def anchorName? (c : Cursor) : Option (List Char × Cursor) :=
  let (name, c) := (c.advance 1).takeWhile isNameChar
  if name.isEmpty || !anchorEnds c then none else some (name, c)

/-! ## Tags -/

/-- Whether a character can stand in a tag; in one between angle brackets, `verbatim`, also the
punctuation of flow sequences. -/
def isUriChar (verbatim : Bool) (c : Char) : Bool :=
  isNameChar c ||
    [';', '/', '?', ':', '@', '&', '=', '+', '$', '.', '!', '~', '*', '\'', '(', ')'].contains c ||
    (verbatim && [',', '[', ']'].contains c)

/-- The byte of an escape, which is a percent sign and two hexadecimal digits. -/
def escapedByte? (c : Cursor) : Option UInt8 :=
  match c.rest with
  | '%' :: a :: b :: _ =>
    match Numeral.digitOf? 16 a, Numeral.digitOf? 16 b with
    | some m, some n => some (16 * m + n).toUInt8
    | _, _ => none
  | _ => none

/-- The length of the encoding that begins with a byte. -/
def encodedLength? (b : UInt8) : Option Nat :=
  if b < 0x80 then some 1
  else if b &&& 0xE0 = 0xC0 then some 2
  else if b &&& 0xF0 = 0xE0 then some 3
  else if b &&& 0xF8 = 0xF0 then some 4
  else none

/-- Reads `count` escapes that continue an encoding. -/
def continuation? : (count : Nat) → Cursor → Option (List UInt8 × Cursor)
  | 0, c => some ([], c)
  | count + 1, c =>
    match escapedByte? c with
    | none => none
    | some b =>
      if b &&& 0xC0 = 0x80 then
        (continuation? count (c.advance 3)).map fun (bs, c) => (b :: bs, c)
      else none

/-- Reads the escapes of one encoding, of the length that its first byte says. Whether it encodes a
character is not looked at. -/
def escapedBytes? (c : Cursor) : Option (List UInt8 × Cursor) :=
  match escapedByte? c with
  | none => none
  | some b =>
    match encodedLength? b with
    | none => none
    | some n => (continuation? (n - 1) (c.advance 3)).map fun (bs, c) => (b :: bs, c)

/-- Reads the characters and escapes of a tag, at most `fuel` of them. -/
def uriFrom? (verbatim : Bool) : (fuel : Nat) → List UInt8 → Cursor → Option (List UInt8 × Cursor)
  | 0, bytes, c => some (bytes, c)
  | fuel + 1, bytes, c =>
    match c.peek 0 with
    | none => some (bytes, c)
    | some x =>
      if x == '%' then
        match escapedBytes? c with
        | none => none
        | some (bs, c) => uriFrom? verbatim fuel (bytes ++ bs) c
      else if isUriChar verbatim x then
        uriFrom? verbatim fuel (bytes ++ String.utf8EncodeChar x) (c.advance 1)
      else some (bytes, c)

/-- Reads the rest of a tag after `head`, whose first character, an exclamation mark, is no part of
the result; there has to be something in the two. A zero byte ends the tag, and what is written
after it is passed over. -/
def uri? (verbatim : Bool) (head : List Char) (c : Cursor) : Option (Tag × Cursor) :=
  match uriFrom? verbatim c.rest.length (Text.bytes (String.ofList (head.drop 1))) c with
  | none => none
  | some (bytes, after) =>
    if head.isEmpty && after.index == c.index then none else some (bytes.takeWhile (· != 0), after)

/-- Reads a handle: an exclamation mark, name characters, and a second mark if one follows. -/
def handle? (c : Cursor) : Option (List Char × Cursor) :=
  if !c.isAt '!' then none
  else
    let (name, c) := (c.advance 1).takeWhile isNameChar
    if c.isAt '!' then some ('!' :: name ++ ['!'], c.advance 1) else some ('!' :: name, c)

/-- Whether a handle is one that a directive can define. -/
def isClosedHandle (handle : List Char) : Bool :=
  1 < handle.length && handle.getLast? == some '!'

/-- Reads handle and suffix of the tag that stands here, without looking at what follows. -/
def tagParts? (c : Cursor) : Option (List Char × Tag × Cursor) :=
  if c.sees 1 (· == '<') then
    match uri? true [] (c.advance 2) with
    | none => none
    | some (suffix, c) => if c.isAt '>' then some ([], suffix, c.advance 1) else none
  else
    match handle? c with
    | none => none
    | some (handle, c) =>
      if isClosedHandle handle then (uri? false [] c).map fun (suffix, c) => (handle, suffix, c)
      else
        (uri? false handle c).map fun (suffix, c) =>
          if suffix.isEmpty then ([], Text.bytes "!", c) else (['!'], suffix, c)

/-- Reads a tag; it ends before a gap or, between flow brackets, before a comma. -/
def tag? (inFlow : Bool) (c : Cursor) : Option (Token × Cursor) :=
  match tagParts? c with
  | none => none
  | some (handle, suffix, c) =>
    if c.wordEnds 0 || (inFlow && c.isAt ',') then some (.tag handle suffix, c) else none

/-! ## Directives -/

/-- Reads a number of at most nine digits. -/
def versionPart? (c : Cursor) : Option (Nat × Cursor) :=
  let (ds, c) := c.takeWhile Char.isDigit
  if ds.isEmpty || 9 < ds.length then none else some (Decimal.value ds, c)

/-- Reads the value of a version directive. -/
def version? (c : Cursor) : Option (Token × Cursor) := do
  let (major, c) ← versionPart? (c.skipWhile isSpacing)
  if !c.isAt '.' then none
  let (minor, c) ← versionPart? (c.advance 1)
  return (.versionDirective major minor, c)

/-- Reads the value of a tag directive. -/
def tagDirective? (c : Cursor) : Option (Token × Cursor) := do
  let (handle, c) ← handle? (c.skipWhile isSpacing)
  if handle ≠ ['!'] ∧ !isClosedHandle handle then none
  if !c.sees 0 isSpacing then none
  let (lead, c) ← uri? true [] (c.skipWhile isSpacing)
  if !c.wordEnds 0 then none
  return (.tagDirective handle lead, c)

/-- Reads the directive that stands here, and the rest of its line. -/
def directive? (c : Cursor) : Option (Token × Cursor) := do
  let (name, c) := (c.advance 1).takeWhile isNameChar
  if name.isEmpty || !c.wordEnds 0 then none
  let (token, c) ←
    if name = "YAML".toList then version? c
    else if name = "TAG".toList then tagDirective? c
    else none
  let c ← c.skipLineTail?
  return (token, c)

end ConfigBinding.Yaml.Property
