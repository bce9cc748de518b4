import ConfigBinding.Numeral
import ConfigBinding.Yaml.Scalar.Gap

/-!
# Quoted scalars

Between apostrophes a doubled apostrophe stands for one. Between double quotes a backslash starts an
escape; before a line break it removes the break. Line breaks are folded in both.
-/

set_option autoImplicit false

namespace ConfigBinding.Yaml.Quoted

/-- The character that a one-letter escape stands for. -/
def simpleEscape? : Char → Option Char
  | '0' => some '\x00'
  | 'a' => some '\x07'
  | 'b' => some '\x08'
  | 't' => some '\t'
  | '\t' => some '\t'
  | 'n' => some '\n'
  | 'v' => some '\x0b'
  | 'f' => some '\x0c'
  | 'r' => some '\r'
  | 'e' => some '\x1b'
  | ' ' => some ' '
  | '"' => some '"'
  | '/' => some '/'
  | '\\' => some '\\'
  | 'N' => some '\x85'
  | '_' => some '\xa0'
  | 'L' => some '\u2028'
  | 'P' => some '\u2029'
  | _ => none

/-- The number of hexadecimal digits after the letter of an escape by code. -/
def codeWidth? : Char → Option Nat
  | 'x' => some 2
  | 'u' => some 4
  | 'U' => some 8
  | _ => none

/-- The character of a code in hexadecimal digits. -/
def ofHex? (ds : List Char) : Option Char :=
  let values := ds.filterMap (Numeral.digitOf? 16)
  let n := values.foldl (fun n d => 16 * n + d) 0
  if values.length = ds.length ∧ n.isValidChar then some (Char.ofNat n) else none

/-- Why the reading of a stretch without gaps stopped. -/
inductive Stop where
  | word
  | escapedBreak

/-- Reads characters and escapes up to a gap, an escaped line break, or the closing quote. -/
def stretch? (quote : Char) : (fuel : Nat) → List Char → Cursor → Option (List Char × Stop × Cursor)
  | 0, text, c => some (text, .word, c)
  | fuel + 1, text, c =>
    match c.peek 0 with
    | none => some (text, .word, c)
    | some x =>
      if isGap x then some (text, .word, c)
      else if quote == '\'' && x == '\'' && c.sees 1 (· == '\'') then
        stretch? quote fuel (text ++ ['\'']) (c.advance 2)
      else if x == quote then some (text, .word, c)
      else if quote == '"' && x == '\\' then
        match c.peek 1 with
        | none => none
        | some y =>
          if isBreak y then some (text, .escapedBreak, (c.advance 1).takeBreak.2)
          else
            match simpleEscape? y with
            | some z => stretch? quote fuel (text ++ [z]) (c.advance 2)
            | none =>
              match codeWidth? y with
              | none => none
              | some width =>
                let c := c.advance 2
                let ds := c.rest.take width
                if ds.length < width then none
                else
                  match ofHex? ds with
                  | some z => stretch? quote fuel (text ++ [z]) (c.advance width)
                  | none => none
      else stretch? quote fuel (text ++ [x]) (c.advance 1)

/-- Reads on stretch by stretch, at most `fuel` of them, up to the closing quote and past it. -/
def readFrom? (quote : Char) : (fuel : Nat) → List Char → Cursor → Option (List Char × Cursor)
  | 0, _, _ => none
  | fuel + 1, text, c =>
    if c.atDocumentMark || c.atEnd then none
    else
      match stretch? quote c.rest.length text c with
      | none => none
      | some (text, stop, c) =>
        if c.isAt quote then some (text, c.advance 1)
        else
          let gap := match stop with
            | .word => Gap.empty
            | .escapedBreak => { Gap.empty with broken := true }
          match Gap.read? 0 gap c with
          | none => none
          | some (gap, c) => readFrom? quote fuel (text ++ gap.text) c

/-- Reads a scalar whose opening quote stands here. -/
def read? (quote : Char) (c : Cursor) : Option (List Char × Cursor) :=
  readFrom? quote (c.rest.length + 1) [] (c.advance 1)

end ConfigBinding.Yaml.Quoted
