/-!
# Tokens of YAML

A YAML text is a sequence of tokens. Those that open and close block collections stand for changes
of indentation.
-/

set_option autoImplicit false

namespace ConfigBinding.Yaml

/-- A tag, or a part of one: bytes, which need not be the UTF-8 of a text. None of them is zero. -/
abbrev Tag :=
  List UInt8

/-- A token. -/
inductive Token where
  | versionDirective (major minor : Nat)
  | tagDirective (handle : List Char) (lead : Tag)
  | documentStart
  | documentEnd
  | blockSequenceStart
  | blockMappingStart
  | blockEnd
  | flowSequenceStart
  | flowSequenceEnd
  | flowMappingStart
  | flowMappingEnd
  | blockEntry
  | flowEntry
  | key
  | value
  | reference (name : List Char)
  | anchor (name : List Char)
  | tag (handle : List Char) (suffix : Tag)
  | scalar (isPlain : Bool) (text : List Char)
  deriving DecidableEq, Repr

end ConfigBinding.Yaml
