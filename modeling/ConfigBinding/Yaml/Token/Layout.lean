import ConfigBinding.Yaml.Property
import ConfigBinding.Yaml.Scalar.Block
import ConfigBinding.Yaml.Scalar.Plain
import ConfigBinding.Yaml.Scalar.Quoted
import ConfigBinding.Yaml.Token

/-!
# From text to tokens

The tokens of a text, in order. Block structure follows from indentation: a token that starts
further right than the enclosing block opens one, and one that starts further left closes blocks. A
mapping's key is recognised only when the colon after it is seen, so the place of every token that
may turn out to start a key is kept, and the tokens that announce the key are put in there. Such a
key ends on its line and within 1024 bytes.
-/

set_option autoImplicit false

namespace ConfigBinding.Yaml

/-- A place where a key may have started: the number of tokens before it, whether it must be a key
for the text to make sense, and where it is. -/
structure KeyStart where
  tokens : Nat
  required : Bool
  index : Nat
  line : Nat
  column : Nat

/-- The state between two tokens. `levels` has one element for the block structure and one for every
open flow collection, the innermost first. -/
structure Layout where
  cursor : Cursor
  tokens : Array Token
  /-- The column of the innermost block, `-1` outside of all, and those of the blocks around it. -/
  indent : Int
  outer : List Int
  levels : List (Option KeyStart)
  /-- Whether a key may start at the next token. -/
  keyAllowed : Bool

namespace Layout

/-- The state at the start of a text. -/
def start (cs : List Char) : Layout where
  cursor := Cursor.start cs
  tokens := #[]
  indent := -1
  outer := []
  levels := [none]
  keyAllowed := true

/-- Whether flow brackets are open. -/
def inFlow (l : Layout) : Bool :=
  1 < l.levels.length

/-- Adds a token at the end. -/
def push (l : Layout) (t : Token) : Layout :=
  { l with tokens := l.tokens.push t }

/-- Puts a token in before the `n`-th. -/
def insertAt (l : Layout) (n : Nat) (t : Token) : Layout :=
  { l with tokens := (l.tokens.extract 0 n).push t ++ l.tokens.extract n l.tokens.size }

/-! ## Indentation -/

/-- Opens a block at a column if that is right of the innermost one: its token goes before the
`n`-th. -/
def openBlock (l : Layout) (column n : Nat) (t : Token) : Layout :=
  if l.inFlow || column ≤ l.indent then l
  else { l.insertAt n t with indent := column, outer := l.indent :: l.outer }

/-- Closes blocks right of a column, given the columns of those around the innermost. -/
def closeBlocksFrom (column : Int) : List Int → Layout → Layout
  | outer, l =>
    if l.indent ≤ column then l
    else
      match outer with
      | [] => l
      | i :: outer =>
        closeBlocksFrom column outer { l.push .blockEnd with indent := i, outer := outer }

/-- Closes the blocks right of a column. -/
def closeBlocks (l : Layout) (column : Int) : Layout :=
  if l.inFlow then l else closeBlocksFrom column l.outer l

/-! ## Keys -/

/-- Whether a possible key start is too far back to be one. -/
def isStale (c : Cursor) (k : KeyStart) : Bool :=
  k.line < c.line || k.index + 1024 < c.index

/-- Gives up the key starts that are too far back. -/
def dropStale? (l : Layout) : Option Layout :=
  let stale : Option KeyStart → Bool := fun k => k.any (isStale l.cursor)
  if l.levels.any fun k => stale k && k.any (·.required) then none
  else some { l with levels := l.levels.map fun k => if stale k then none else k }

/-- Replaces the possible key start of the innermost level. -/
def setKey (l : Layout) (k : Option KeyStart) : Layout :=
  { l with levels := k :: l.levels.drop 1 }

/-- Gives up the possible key start of the innermost level. -/
def dropKey? (l : Layout) : Option Layout :=
  match l.levels.head?.join with
  | some k => if k.required then none else some (l.setKey none)
  | none => some l

/-- Notes that a key may start here, if one may. -/
def saveKey? (l : Layout) : Option Layout :=
  if !l.keyAllowed then some l
  else
    let c := l.cursor
    let required := !l.inFlow && l.indent == (c.column : Int)
    (l.dropKey?).map fun l => l.setKey (some ⟨l.tokens.size, required, c.index, c.line, c.column⟩)

/-! ## Tokens -/

/-- Adds a token of `n` characters. -/
def take (l : Layout) (n : Nat) (t : Token) (keyAllowed : Bool) : Layout :=
  { l.push t with cursor := l.cursor.advance n, keyAllowed := keyAllowed }

/-- Adds a token read from here. -/
def takeRead (l : Layout) (r : Option (Token × Cursor)) : Option Layout :=
  r.map fun (t, c) => { l.push t with cursor := c }

/-- The place of the next token: blanks, comments and line breaks are passed over, and so is a mark
of byte order at the start of a line, which takes up a column. Tabs count as blanks except where a
key may start in a block; a line break lets one start there. -/
def skipToToken : (fuel : Nat) → Layout → Layout
  | 0, l => l
  | fuel + 1, l =>
    let tabs := l.inFlow || !l.keyAllowed
    let blank : Char → Bool := fun x => x == ' ' || (tabs && x == '\t')
    let c := (l.cursor.skipMark.skipWhile blank).skipComment
    if c.sees 0 isBreak then
      skipToToken fuel
        { l with cursor := c.takeBreak.2, keyAllowed := l.keyAllowed || !l.inFlow }
    else { l with cursor := c }

/-- The end of the text. -/
def finish? (l : Layout) : Option Layout :=
  (l.closeBlocks (-1)).dropKey?

/-- A directive or document mark closes all blocks. -/
def documentLevel? (l : Layout) : Option Layout :=
  ((l.closeBlocks (-1)).dropKey?).map fun l => { l with keyAllowed := false }

/-- An opening flow bracket. -/
def openFlow? (l : Layout) (t : Token) : Option Layout :=
  (l.saveKey?).map fun l => { l with levels := none :: l.levels }.take 1 t true

/-- A closing flow bracket. -/
def closeFlow? (l : Layout) (t : Token) : Option Layout :=
  (l.dropKey?).map fun l =>
    { l with levels := if l.inFlow then l.levels.drop 1 else l.levels }.take 1 t false

/-- The comma between flow entries. -/
def flowEntry? (l : Layout) : Option Layout :=
  (l.dropKey?).map fun l => l.take 1 .flowEntry true

/-- The dash of a block entry. -/
def blockEntry? (l : Layout) : Option Layout :=
  if !l.inFlow && !l.keyAllowed then none
  else
    ((l.openBlock l.cursor.column l.tokens.size .blockSequenceStart).dropKey?).map fun l =>
      l.take 1 .blockEntry true

/-- The question mark of an explicit key. -/
def explicitKey? (l : Layout) : Option Layout :=
  if !l.inFlow && !l.keyAllowed then none
  else
    ((l.openBlock l.cursor.column l.tokens.size .blockMappingStart).dropKey?).map fun l =>
      l.take 1 .key !l.inFlow

/-- The colon before a value. -/
def value? (l : Layout) : Option Layout :=
  match l.levels.head?.join with
  | some k =>
    let l := (l.insertAt k.tokens .key).openBlock k.column k.tokens .blockMappingStart
    some ((l.setKey none).take 1 .value false)
  | none =>
    if !l.inFlow && !l.keyAllowed then none
    else
      let l := l.openBlock l.cursor.column l.tokens.size .blockMappingStart
      some (l.take 1 .value !l.inFlow)

/-- A token that a key may consist of. -/
def keyToken? (l : Layout) (read : Cursor → Option (Token × Cursor)) : Option Layout :=
  (l.saveKey?).bind fun l => { l with keyAllowed := false }.takeRead (read l.cursor)

/-- A block scalar. -/
def blockScalar? (l : Layout) (literal : Bool) : Option Layout :=
  (l.dropKey?).bind fun l =>
    { l with keyAllowed := true }.takeRead <|
      (Block.read? literal l.indent l.cursor).map fun (text, c) => (.scalar false text, c)

/-- A plain scalar. After one that a line break follows, a key may start. -/
def plainScalar? (l : Layout) : Option Layout :=
  (l.saveKey?).bind fun l =>
    (Plain.read? l.inFlow (l.indent + 1).toNat l.cursor).map fun (text, broken, c) =>
      { l.push (.scalar true text) with cursor := c, keyAllowed := broken }

/-- Whether a plain scalar may start with the next character. -/
def plainStarts (l : Layout) : Bool :=
  let c := l.cursor
  let indicators := ['-', '?', ':', ',', '[', ']', '{', '}', '#', '&', '*', '!', '|', '>', '\'',
    '"', '%', '@', '`']
  (c.sees 0 fun x => !isGap x && !indicators.contains x) ||
    (c.isAt '-' && !c.sees 1 isSpacing) ||
    (!l.inFlow && (c.isAt '?' || c.isAt ':') && !c.wordEnds 1)

/-- Reads the token that starts with the character `x` here. -/
def token? (l : Layout) (x : Char) : Option Layout :=
  let c := l.cursor
  if c.column == 0 && x == '%' then
    (l.documentLevel?).bind fun l => l.takeRead (Property.directive? c)
  else if c.atDocumentMark then
    (l.documentLevel?).map fun l =>
      l.take 3 (if x == '-' then .documentStart else .documentEnd) false
  else if x == '[' then l.openFlow? .flowSequenceStart
  else if x == '{' then l.openFlow? .flowMappingStart
  else if x == ']' then l.closeFlow? .flowSequenceEnd
  else if x == '}' then l.closeFlow? .flowMappingEnd
  else if x == ',' then l.flowEntry?
  else if x == '-' && c.wordEnds 1 then l.blockEntry?
  else if x == '?' && (l.inFlow || c.wordEnds 1) then l.explicitKey?
  else if x == ':' && (l.inFlow || c.wordEnds 1) then l.value?
  else if x == '*' then
    l.keyToken? fun c => (Property.anchorName? c).map fun (name, c) => (.reference name, c)
  else if x == '&' then
    l.keyToken? fun c => (Property.anchorName? c).map fun (name, c) => (.anchor name, c)
  else if x == '!' then l.keyToken? (Property.tag? l.inFlow)
  else if x == '|' && !l.inFlow then l.blockScalar? true
  else if x == '>' && !l.inFlow then l.blockScalar? false
  else if x == '\'' || x == '"' then
    l.keyToken? fun c => (Quoted.read? x c).map fun (text, c) => (.scalar false text, c)
  else if l.plainStarts then l.plainScalar?
  else none

/-- Reads tokens up to the end of the text, at most `fuel` of them. -/
def readFrom? : (fuel : Nat) → Layout → Option Layout
  | 0, _ => none
  | fuel + 1, l =>
    match (skipToToken (l.cursor.rest.length + 1) l).dropStale? with
    | none => none
    | some l =>
      let l := l.closeBlocks l.cursor.column
      match l.cursor.peek 0 with
      | none => l.finish?
      | some x =>
        match l.token? x with
        | none => none
        | some l => readFrom? fuel l

end Layout

/-- The tokens of a text; there are none when it holds a character it may not, or is not made of
tokens. -/
def tokens? (s : String) : Option (List Token) :=
  let cs := s.toList
  if cs.all isAllowed then
    (Layout.readFrom? (cs.length + 1) (Layout.start cs)).map (·.tokens.toList)
  else none

end ConfigBinding.Yaml
