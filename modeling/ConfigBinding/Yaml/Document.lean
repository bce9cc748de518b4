import ConfigBinding.Text.Utf8
import ConfigBinding.Yaml.Node
import ConfigBinding.Yaml.Token.Layout

/-!
# Documents

The node tree of a text that holds one document. Directives may precede the document; they give the
version, which must be 1.1 or 1.2, and abbreviations for tags.
-/

set_option autoImplicit false

namespace ConfigBinding.Yaml

/-- What a document's directives set: the texts that tag handles stand for. -/
abbrev Handles :=
  List (List Char × Tag)

/-- What is left of the tokens, and the anchor names used so far with their numbers. -/
structure Remaining where
  tokens : List Token
  names : List (List Char × Nat)

namespace Remaining

/-- The next token. -/
def peek (r : Remaining) : Option Token :=
  r.tokens.head?

/-- What is left without the next token. -/
def skip (r : Remaining) : Remaining :=
  { r with tokens := r.tokens.drop 1 }

/-- Uses an anchor name. Gives its number. -/
def define (r : Remaining) (name : List Char) : Nat × Remaining :=
  let number := r.names.length
  (number, { r with names := (name, number) :: r.names.filter (·.1 != name) })

end Remaining

/-- The anchor and the tag of a node, as far as it has them. -/
structure Properties where
  anchor : Option (List Char)
  tag : Option (List Char × Tag)

/-- Reads the properties of a node, in either order. -/
def properties (r : Remaining) : Properties × Remaining :=
  match r.tokens with
  | .anchor name :: .tag handle suffix :: tokens =>
    (⟨some name, some (handle, suffix)⟩, { r with tokens })
  | .tag handle suffix :: .anchor name :: tokens =>
    (⟨some name, some (handle, suffix)⟩, { r with tokens })
  | .anchor name :: tokens => (⟨some name, none⟩, { r with tokens })
  | .tag handle suffix :: tokens => (⟨none, some (handle, suffix)⟩, { r with tokens })
  | _ => (⟨none, none⟩, r)

/-- The full tag of a handle and a suffix, if the handle is defined. -/
def fullTag? (handles : Handles) (tag : List Char × Tag) : Option Tag :=
  if tag.1.isEmpty then some tag.2 else (handles.lookup tag.1).map (· ++ tag.2)

/-- Where a node stands: in a block or between flow brackets, and whether a sequence that is not
indented may stand there. -/
inductive Position where
  | block (indentless : Bool)
  | flow

/-- Whether a block collection may start in the position. -/
def Position.isBlock : Position → Bool
  | block _ => true
  | flow => false

/-- Whether a sequence that is not indented may start in the position. -/
def Position.isIndentless : Position → Bool
  | block indentless => indentless
  | flow => false

/-- The node with its anchor's number, if it has one. -/
def withNumber (number : Option Nat) (node : Node) : Node :=
  match number with
  | some n => .anchored n node
  | none => node

mutual

/-- Reads a node. -/
def node? (handles : Handles) : (fuel : Nat) → Position → Remaining → Option (Node × Remaining)
  | 0, _, _ => none
  | fuel + 1, position, r =>
    match r.peek with
    | some (.reference name) => (r.names.lookup name).map fun n => (.reference n, r.skip)
    | _ => do
      let (props, r) := properties r
      let tag ← match props.tag with
        | some t => (fullTag? handles t).map some
        | none => some none
      let (number, r) := match props.anchor with
        | some name => let (n, r) := r.define name; (some n, r)
        | none => (none, r)
      match r.peek, position.isBlock with
      | some .blockEntry, true =>
        if position.isIndentless then
          let (items, r) ← indentlessItems? handles fuel r
          return (withNumber number (.sequence tag items), r)
        else if number.isSome || tag.isSome then
          return (withNumber number (.scalar true tag []), r)
        else none
      | some (.scalar isPlain text), _ =>
        return (withNumber number (.scalar isPlain tag text), r.skip)
      | some .flowSequenceStart, _ =>
        let (items, r) ← flowItems? handles fuel true r.skip
        return (withNumber number (.sequence tag items), r)
      | some .flowMappingStart, _ =>
        let (entries, r) ← flowEntries? handles fuel true r.skip
        return (withNumber number (.mapping tag entries), r)
      | some .blockSequenceStart, true =>
        let (items, r) ← blockItems? handles fuel r.skip
        return (withNumber number (.sequence tag items), r)
      | some .blockMappingStart, true =>
        let (entries, r) ← blockEntries? handles fuel r.skip
        return (withNumber number (.mapping tag entries), r)
      | _, _ =>
        if number.isSome || tag.isSome then return (withNumber number (.scalar true tag []), r)
        else none

/-- Reads a node, or takes it for omitted when the next token cannot start one there. -/
def nodeUnless? (handles : Handles) : (fuel : Nat) → (omitted : Option Token → Bool) → Position →
    Remaining → Option (Node × Remaining)
  | 0, _, _, _ => none
  | fuel + 1, omitted, position, r =>
    if omitted r.peek then some (.empty, r) else node? handles fuel position r

/-- Reads the items of a block sequence up to its end. -/
def blockItems? (handles : Handles) : (fuel : Nat) → Remaining → Option (List Node × Remaining)
  | 0, _ => none
  | fuel + 1, r =>
    match r.peek with
    | some .blockEntry => do
      let omitted : Option Token → Bool := fun t => t == some .blockEntry || t == some .blockEnd
      let (item, r) ← nodeUnless? handles fuel omitted (.block false) r.skip
      let (items, r) ← blockItems? handles fuel r
      return (item :: items, r)
    | some .blockEnd => some ([], r.skip)
    | _ => none

/-- Reads the items of a sequence that is not indented: it ends where no dash follows. -/
def indentlessItems? (handles : Handles) : (fuel : Nat) → Remaining →
    Option (List Node × Remaining)
  | 0, _ => none
  | fuel + 1, r =>
    match r.peek with
    | some .blockEntry => do
      let omitted : Option Token → Bool := fun t =>
        t == some .blockEntry || t == some .key || t == some .value || t == some .blockEnd
      let (item, r) ← nodeUnless? handles fuel omitted (.block false) r.skip
      let (items, r) ← indentlessItems? handles fuel r
      return (item :: items, r)
    | _ => some ([], r)

/-- Reads the entries of a block mapping up to its end. Every entry has the announcement of a key;
its value may be missing. -/
def blockEntries? (handles : Handles) : (fuel : Nat) → Remaining →
    Option (List (Node × Node) × Remaining)
  | 0, _ => none
  | fuel + 1, r =>
    match r.peek with
    | some .key => do
      let omitted : Option Token → Bool := fun t =>
        t == some .key || t == some .value || t == some .blockEnd
      let (key, r) ← nodeUnless? handles fuel omitted (.block true) r.skip
      let (value, r) ←
        if r.peek == some .value then nodeUnless? handles fuel omitted (.block true) r.skip
        else some (.empty, r)
      let (entries, r) ← blockEntries? handles fuel r
      return ((key, value) :: entries, r)
    | some .blockEnd => some ([], r.skip)
    | _ => none

/-- Reads the items of a flow sequence up to its end; but for the first, a comma precedes each. An
item that announces a key is a mapping of one entry. -/
def flowItems? (handles : Handles) : (fuel : Nat) → (first : Bool) → Remaining →
    Option (List Node × Remaining)
  | 0, _, _ => none
  | fuel + 1, first, r =>
    if r.peek == some .flowSequenceEnd then some ([], r.skip)
    else if !first && r.peek != some .flowEntry then none
    else
      let r := if first then r else r.skip
      match r.peek with
      | some .flowSequenceEnd => some ([], r.skip)
      | some .key => do
        let (entry, r) ← pair? handles fuel r.skip
        let (items, r) ← flowItems? handles fuel false r
        return (.mapping none [entry] :: items, r)
      | _ => do
        let (item, r) ← node? handles fuel .flow r
        let (items, r) ← flowItems? handles fuel false r
        return (item :: items, r)

/-- Reads the one entry of a mapping inside a flow sequence. The token after an omitted key is taken
with it. -/
def pair? (handles : Handles) : (fuel : Nat) → Remaining → Option ((Node × Node) × Remaining)
  | 0, _ => none
  | fuel + 1, r => do
    let (key, r) ←
      if r.peek == some .value || r.peek == some .flowEntry || r.peek == some .flowSequenceEnd then
        some (.empty, r.skip)
      else node? handles fuel .flow r
    let omitted : Option Token → Bool := fun t =>
      t == some .flowEntry || t == some .flowSequenceEnd
    let (value, r) ←
      if r.peek == some .value then nodeUnless? handles fuel omitted .flow r.skip
      else some (.empty, r)
    return ((key, value), r)

/-- Reads the entries of a flow mapping up to its end; but for the first, a comma precedes each. An
entry without the announcement of a key has no value. -/
def flowEntries? (handles : Handles) : (fuel : Nat) → (first : Bool) → Remaining →
    Option (List (Node × Node) × Remaining)
  | 0, _, _ => none
  | fuel + 1, first, r =>
    if r.peek == some .flowMappingEnd then some ([], r.skip)
    else if !first && r.peek != some .flowEntry then none
    else
      let r := if first then r else r.skip
      match r.peek with
      | some .flowMappingEnd => some ([], r.skip)
      | some .key => do
        let omittedKey : Option Token → Bool := fun t =>
          t == some .value || t == some .flowEntry || t == some .flowMappingEnd
        let omitted : Option Token → Bool := fun t =>
          t == some .flowEntry || t == some .flowMappingEnd
        let (key, r) ← nodeUnless? handles fuel omittedKey .flow r.skip
        let (value, r) ←
          if r.peek == some .value then nodeUnless? handles fuel omitted .flow r.skip
          else some (.empty, r)
        let (entries, r) ← flowEntries? handles fuel false r
        return ((key, value) :: entries, r)
      | _ => do
        let (key, r) ← node? handles fuel .flow r
        let (entries, r) ← flowEntries? handles fuel false r
        return ((key, .empty) :: entries, r)

end

/-- Reads the directives before a document: whether a version was given, and the handles defined. -/
def directives? (version : Bool) (handles : Handles) :
    List Token → Option (Handles × List Token)
  | .versionDirective major minor :: tokens =>
    if version || major != 1 || (minor != 1 && minor != 2) then none
    else directives? true handles tokens
  | .tagDirective handle lead :: tokens =>
    if (handles.lookup handle).isSome then none
    else directives? version ((handle, lead) :: handles) tokens
  | tokens => some (handles, tokens)

/-- The handles that are defined unless a directive defines them. -/
def defaultHandles : Handles :=
  [(['!'], Text.bytes "!"), (['!', '!'], Text.bytes "tag:yaml.org,2002:")]

/-- Whether a token ends a document that has no node. -/
def endsEmptyDocument : Option Token → Bool
  | none | some (.versionDirective ..) | some (.tagDirective ..) | some .documentStart
  | some .documentEnd => true
  | _ => false

/-- The node of the first document and the tokens after it. -/
def firstDocument? (tokens : List Token) : Option (Node × List Token) := do
  let fuel := 4 * tokens.length + 8
  let (defined, rest) ← directives? false [] tokens
  let handles := defined ++ defaultHandles
  if rest.length = tokens.length ∧ rest.head? ≠ some .documentStart then
    let (node, r) ← node? handles fuel (.block false) ⟨rest, []⟩
    return (node, r.tokens)
  else if rest.head? = some .documentStart then
    let (node, r) ← nodeUnless? handles fuel endsEmptyDocument (.block false) ⟨rest.drop 1, []⟩
    return (node, r.tokens)
  else none

/-- What a text holds. -/
inductive Content where
  | nothing
  | document (root : Node)

/-- The content of a text; there is none when the text is malformed or holds more than one
document. -/
def content? (s : String) : Option Content := do
  let tokens ← tokens? s
  if tokens.isEmpty then return .nothing
  let (root, rest) ← firstDocument? tokens
  if rest.all (· == .documentEnd) then return .document root else none

end ConfigBinding.Yaml
